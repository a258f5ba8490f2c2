import CheckedBuild.Machine.Tools.Files

/-!
# Tools that run programs

These tools run a program that their arguments name, in changed circumstances: with other
variables, or in another directory. Their status is that of the program, unless it cannot be run.
-/

namespace CheckedBuild.Machine.Tools

open Process

/-- The search path of programs that have none. -/
def defaultSearchPath : List Char := "/bin:/usr/bin".toList

/-- What a program's name stands for in the search path that a process was given. -/
def named (process : Process) (name : List Char) (arguments : List (List Char)) :
    Step (Except Refusal Launch) := do
  let files := (← get).files
  let searchPath := (givenValue process "PATH".toList).getD defaultSearchPath
  if name.isEmpty then return .error .notFound
  if name.contains '/' then
    return executeOrShell files process.given (textOfRaw name) name arguments
  return search files process.given (textOfRaw searchPath) (textOfRaw name) arguments

/-- Runs a program in a process of its own. -/
def runProgram (starter : Starter) (process : Process) (launch : Launch) : Step Nat := do
  let number ← startProgram starter ⟨launch, process.descriptors, process.given⟩
  return (← awaitEnding number).code

/-- The status for a program that cannot be run. -/
def statusOf (refusal : Refusal) : Nat :=
  if refusal = .notFound then 127 else 126

/-- The complaint of most tools about a program that cannot be run. -/
def notRun (name : List Char) : List Char := "failed to run command ".toList ++ marked name

/-- Runs the program that a command names, or says why that cannot be done; then there is no
status. -/
def tryCommand (starter : Starter) (process : Process) (complaint : List Char → List Char)
    (name : List Char) (arguments : List (List Char)) : Step (Except Refusal Nat) := do
  match ← named process name arguments with
  | .ok launch => return .ok (← runProgram starter process launch)
  | .error refusal =>
    process.complain (complaint name ++ ": ".toList ++ refusal.complaint.toList)
    return .error refusal

/-- Runs the program that a command names; that it cannot be run has a status, too. -/
def runCommand (starter : Starter) (process : Process) (complaint : List Char → List Char) :
    List (List Char) → Step Nat
  | [] => return 125
  | name :: arguments => do
    match ← tryCommand starter process complaint name arguments with
    | .ok status => return status
    | .error refusal => return statusOf refusal

/-- Becomes the program that a command names; that it cannot be run has a status, too. -/
def becomeCommand (starter : Starter) (process : Process)
    (complaint : List Char → List Char) : List (List Char) → Step Nat
  | [] => return 125
  | name :: arguments => do
    match ← named process name arguments with
    | .ok launch => becomeProgram starter ⟨launch, process.descriptors, process.given⟩
    | .error refusal =>
      process.complain (complaint name ++ ": ".toList ++ refusal.complaint.toList)
      return statusOf refusal

/-- The settings with one of them changed, or put after all others. -/
def withSetting (given : List (List Char)) (setting : List Char) : List (List Char) :=
  let name := setting.takeWhile (· ≠ '=') ++ ['=']
  if given.any name.isPrefixOf then
    given.map fun s => if name.isPrefixOf s then setting else s
  else given ++ [setting]

/-- The words of a text that an option is to be split into. -/
def splitWords (s : List Char) : List (List Char) :=
  (Text.pieces ' ' (s.map fun c => if c = '\t' then ' ' else c)).filter fun word => !word.isEmpty

/-- Writes down the variables, or runs a program with changed ones. -/
def env (starter : Starter) (process : Process) : Step Nat := do
  let split := process.arguments.flatMap fun s =>
    match s with
    | '-' :: 'S' :: rest => splitWords rest
    | s => [s]
  let table : OptionTable :=
    { plain := "iv0 \t", valued := "uC", strict := true
      words := [("ignore-environment", 'i'), ("null", '0'), ("unset", 'u'), ("chdir", 'C')] }
  { process with arguments := split }.withOptions table 125 fun options => do
    let advice := "use -[v]S to pass options in shebang lines".toList
    if options.has ' ' || options.has '\t' then
      process.complain "invalid option -- ' '".toList
      process.complain advice
      process.warn ("Try '".toList ++ process.name ++ " --help' for more information.".toList)
      return 125
    let (empties, operands) : Bool × List (List Char) := match options.operands with
      | ['-'] :: rest => (true, rest)
      | operands => (options.has 'i', operands)
    let settings := operands.takeWhile fun (s : List Char) => s.contains '='
    let command := operands.drop settings.length
    let kept := (if empties then [] else process.given).filter fun s =>
      !(options.values 'u').any fun name => (name ++ ['=']).isPrefixOf s
    let given := settings.foldl withSetting kept
    match options.value? 'C' with
    | some directory =>
      match (← get).files.find (textOfRaw directory) with
      | .ok (name, .directory _) =>
        changeFiles fun files => { files with workingDirectory := name }
      | other =>
        let refusal := match other with
          | .error refusal => refusal
          | .ok _ => .notDirectory
        process.complain ("cannot change directory to '".toList ++ directory ++ "': ".toList
          ++ refusal.complaint.toList)
        return 125
    | none => pure ()
    if command.isEmpty then
      process.say (given.flatMap fun s => s ++ [if options.has '0' then '\x00' else '\n'])
      return 0
    let status ← becomeCommand starter { process with given }
      (fun name => '\'' :: name ++ ['\'']) command
    let name := command.headD []
    if status = 127 && name.any fun c => c = ' ' || ('\t' ≤ c && c ≤ '\r') then
      process.complain advice
    return status

/-- A text with every occurrence of a mark replaced by another text. -/
def replaced (fuel : Nat) (mark new s : List Char) : List Char :=
  match fuel, s with
  | fuel + 1, c :: rest =>
    if mark.isPrefixOf s && !mark.isEmpty then
      new ++ replaced fuel mark new (s.drop mark.length)
    else c :: replaced fuel mark new rest
  | _, s => s

end CheckedBuild.Machine.Tools
