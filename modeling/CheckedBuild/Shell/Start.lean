import CheckedBuild.Shell.Evaluate

/-!
# Starting a shell

A shell takes options, and then either a text, a file or its standard input as its commands. What
follows are the positional parameters.
-/

namespace CheckedBuild.Shell

open CheckedBuild.Machine

/-- Where a shell takes its commands from. -/
inductive Origin where
  | text (text : List Char)
  /-- A file that has been opened as a stream. -/
  | file (stream : Nat)
  | input

/-- The arguments of a shell: the settings in front of them, whether there is a text, and the
rest. -/
structure Invocation where
  settings : List (List Char) := []
  takesText : Bool := false
  takesInput : Bool := false
  rest : List (List Char) := []

/-- Sorts the arguments of a shell. The letters for a text and for standard input are taken out of
the settings. -/
def Invocation.ofArguments (fuel : Nat) (arguments : List (List Char)) : Invocation :=
  match fuel with
  | 0 => { rest := arguments }
  | fuel + 1 =>
    match arguments with
    | ['-'] :: rest | ['-', '-'] :: rest => { rest }
    | (sign :: letters) :: rest =>
      if sign ≠ '-' && sign ≠ '+' then { rest := arguments }
      else
        let kept := letters.filter fun c => c ≠ 'c' && c ≠ 's'
        let words := (letters.filter (· = 'o')).length
        let later := Invocation.ofArguments fuel (rest.drop words)
        { later with
          settings := (sign :: kept) :: rest.take words ++ later.settings
          takesText := later.takesText || letters.contains 'c'
          takesInput := later.takesInput || (sign = '-' && letters.contains 's') }
    | rest => { rest }

/-- Applies the settings, and finds out where the commands come from. -/
def configure (name : List Char) (arguments : List (List Char)) : Run Origin := do
  modify fun state => { state with name, line := 0 }
  let invocation := Invocation.ofArguments (arguments.length + 1) arguments
  let settings := invocation.settings.filter fun s => s.length ≠ 1
  let _ ← takeSettings (settings.length + 1) settings
  let set (name : List Char) (parameters : List (List Char)) : Run Unit :=
    modify fun state => { state with name, parameters }
  match invocation.takesText, invocation.rest with
  | true, [] => fail "-c requires an argument".toList
  | true, text :: rest =>
    match rest with
    | [] => pure ()
    | name :: parameters => set name parameters
    return .text text
  | false, rest =>
    match invocation.takesInput, rest with
    | false, path :: parameters =>
      let stream ← opened "cannot open " "No such file" path
        fun kernel descriptors => kernel.openForReading descriptors (textOfRaw path)
      set path parameters
      return .file stream
    | _, parameters =>
      switch 's' true
      set name parameters
      return .input

/-- Runs the commands. Only a text ends where the shell does. -/
def runOrigin (engine : Engine) (origin : Origin) : Run Nat := do
  match origin with
  | .text text => runText engine { isLast := true } text
  | .file stream =>
    modify fun state => state.holding state.descriptors [stream]
    runStream engine stream
  | .input =>
    match (← get).descriptors.lookup 0 with
    | some stream => runStream engine stream
    | none => return 0

/-- Where a shell looks for programs if it has not been told. -/
def usualSearchPath : String := "/usr/local/sbin:/usr/local/bin:/usr/sbin:/usr/bin:/sbin:/bin"

/-- The variables that a shell has from the start. -/
def initialValues (directory : List Char) (parent : Nat) (given : List (List Char)) :
    List (List Char × Variable) :=
  let own (name : String) (value : List Char) : List Char × Variable :=
    (name.toList, { value := some value })
  let fixed :=
    [("PWD".toList, { value := some directory, isExported := true }),
     own "PATH" usualSearchPath.toList, own "PPID" (decimal parent), own "OPTIND" ['1'],
     own "IFS" " \t\n".toList,
     own "PS1" "# ".toList, own "PS2" "> ".toList, own "PS4" "+ ".toList]
  let isFixed (name : List Char) : Bool :=
    ["PWD", "PPID", "OPTIND", "IFS"].contains (String.ofList name)
  let inherited := given.filterMap fun s =>
    let (name, value) := splitAssignment s
    if isName name && s.contains '=' && !isFixed name then
      some (name, ({ value := some value, isExported := true } : Variable))
    else none
  inherited ++ fixed.filter fun entry => !inherited.any (·.1 == entry.1)

/-- What a shell does from its start to its end. -/
def runShell (engine : Engine) (start : Start) (kernel : Kernel) : Course :=
  let process := kernel.running
  let found := kernel.own?
  let parent := (found.map fun (entry : ProcessEntry) => entry.parent).getD Table.guardian
  let ignored := (found.map fun (entry : ProcessEntry) => entry.ignored).getD []
  let inherited? := (start.given.find? fun s => "PWD=".toList.isPrefixOf s).map (·.drop 4)
  let state : State :=
    { kernel, process, self := process, unheard := ignored
      descriptors := start.descriptors
      directory := firstDirectory kernel inherited?
      values := initialValues (firstDirectory kernel inherited?) parent start.given }
  let step : Run Unit := do
    let origin ← configure start.launch.name start.launch.arguments
    modify fun state => { state with line := 1 }
    setStatus (← runOrigin engine origin)
  (conclude engine step state.declaring).course id fun _ => .exited 0

end CheckedBuild.Shell
