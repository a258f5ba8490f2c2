import CheckedBuild.Shell.Control

/-!
# Running commands

A command runs in the shell itself, in a process of its own or as a program. In a simple command
the words are expanded first, then descriptors are connected, variables assigned and the command
looked up. A failing command ends a strict shell unless its status is looked at.
-/

namespace CheckedBuild.Shell

open CheckedBuild.Machine

/-- How often a loop goes round at most. -/
def roundLimit : Nat := 1000000000

/-- How a round of a loop ended. -/
inductive Round where
  | done (status : Nat)
  | again
  | stop

/-- Runs a command of a loop and takes the interrupts that are meant for the loop. -/
def inLoop (step : Run Nat) : Run Round := do
  try return .done (← step)
  catch
    | .breakOut levels => if levels ≤ 1 then return .stop else throw (.breakOut (levels - 1))
    | .goOn levels => if levels ≤ 1 then return .again else throw (.goOn (levels - 1))
    | interrupt => throw interrupt

/-- Runs the rounds of a loop; `status` is that of the body so far. -/
def runRounds (condition body : Run Nat) (wanted : Bool) (fuel status : Nat) : Run Nat := do
  match fuel with
  | 0 => return status
  | fuel + 1 =>
    match ← inLoop condition with
    | .stop => return status
    | .again => runRounds condition body wanted fuel status
    | .done tested =>
      if (tested = 0) ≠ wanted then return status
      match ← inLoop body with
      | .stop => return 0
      | .again => runRounds condition body wanted fuel 0
      | .done status => runRounds condition body wanted fuel status

/-- Runs the body of a loop for each of some values. -/
def runEach (name : List Char) (body : Run Nat) (status : Nat) : List (List Char) → Run Nat
  | [] => return status
  | value :: rest => do
    assign name value false
    match ← inLoop body with
    | .stop => return 0
    | .again => runEach name body 0 rest
    | .done status => runEach name body status rest

/-- Runs a step one loop deeper. -/
def deeper (step : Run Nat) : Run Nat := do
  modify fun state => { state with loops := state.loops + 1 }
  eventually step (modify fun state => { state with loops := state.loops - 1 })

/-- Runs the first clause with a pattern that matches a text. -/
def runClause (engine : Engine) (context : Context) (s : List Char) :
    List (List Word × Script) → Run Nat
  | [] => return 0
  | (patterns, body) :: rest => do
    let rec anyMatches : List Word → Run Bool
      | [] => return false
      | pattern :: patterns => do
        let pieces ← expandParts engine false .atStart true pattern
        if doesMatch (unsplit (← get).joint pieces) s then return true
        anyMatches patterns
    if ← anyMatches patterns then
      match body with
      | .nothing => return 0
      | body => engine.run context body
    else runClause engine context s rest

/-- Starts the stages of a pipeline, each in a process of its own; the first one reads `input`. The
results are the numbers of the processes. -/
def startStages (engine : Engine) (isBackground tested : Bool) (input : Option Nat) :
    List Script → Run (List Nat)
  | [] => return []
  | stage :: rest => do
    let ends ← if rest.isEmpty then pure none else some <$> openPipe
    let change (descriptors : Descriptors) : Descriptors :=
      let descriptors := match input with
        | some number => connect 0 (some number) descriptors
        | none => descriptors
      match ends with
      | some (_, writer) => connect 1 (some writer) descriptors
      | none => descriptors
    let process ← fork engine isBackground change do
      let _ ← engine.run { tested, isLast := true } stage
    let others ← startStages engine isBackground tested (ends.map (·.1)) rest
    return process :: others

/-- Runs the stages of a pipeline and waits for all of them. -/
def runStages (engine : Engine) (context : Context) (stages : List Script) : Run Nat := do
  let _ ← takeJobNumber
  let processes ← startStages engine false context.tested none stages
  return (← awaitAll processes).status

/-- How deep calls of functions may be nested. -/
def callLimit : Nat := 1000

/-- Calls a function. -/
def callFunction (engine : Engine) (context : Context) (body : Script)
    (arguments : List (List Char)) : Run Nat := do
  let before ← get
  if callLimit ≤ before.locals.length then
    fail "Maximum function recursion depth (1000) reached".toList
  modify fun state =>
    { state with
      parameters := arguments, loops := 0, optionOffset := 0, locals := [] :: state.locals }
  eventually
    (do
      try engine.run { context with isLast := false } body
      catch
        | .comeBack => return (← get).status
        | interrupt => throw interrupt)
    (do
      restore ((← get).locals.headD [])
      modify fun state =>
        { state with
          parameters := before.parameters, loops := before.loops
          optionOffset := before.optionOffset, locals := state.locals.tail })

/-- Runs the first of some paths that can be run; the last refusal that is not about a missing
file counts. -/
def launchFirst (state : State) (name : List Char) (arguments : List (List Char))
    (last : Refusal) : List (List Char) → Except Refusal Launch
  | [] => .error last
  | path :: rest =>
    match executeOrShell state.kernel.files state.given (textOfRaw path) name arguments with
    | .ok launch => .ok launch
    | .error .notFound | .error .notDirectory => launchFirst state name arguments last rest
    | .error refusal => launchFirst state name arguments refusal rest

/-- Why a program is not run, in words and as a status. -/
def unrunnable (refusal : Refusal) : String × Nat :=
  match refusal with
  | .notFound | .notDirectory => ("not found", 127)
  | .tooManyLevels | .nameTooLong => (refusal.complaint, 127)
  | refusal => (refusal.complaint, 126)

/-- Runs a program in a process of its own, or in the place of the shell. -/
def runLaunch (engine : Engine) (replaces : Bool) (outcome : Except Refusal Launch)
    (name : List Char) : Run Nat := do
  match outcome with
  | .error refusal =>
    let (reason, status) := unrunnable refusal
    complain (name ++ ": ".toList ++ reason.toList)
    return status
  | .ok launch =>
    let state ← get
    let start : Start := ⟨launch, state.descriptors, state.given⟩
    if replaces then asTool (Machine.becomeProgram engine.start start)
    else
      let _ ← takeJobNumber
      let process ← asTool (startProgram engine.start start)
      return (← awaitAll [process]).status

/-- Runs the program of a name. -/
def runProgram (engine : Engine) (context : Context) (name : List Char)
    (arguments : List (List Char)) : Run Nat := do
  let state ← get
  let replaces := context.isLast && !state.hasActions
  if name.contains '/' then
    runLaunch engine replaces (launchFirst state name arguments .notFound [name]) name
  else
    match state.findProgram name with
    | .error refusal =>
      complain (name ++ ": ".toList ++ (unrunnable refusal).1.toList)
      return 127
    | .ok paths =>
      if !state.known.contains name then set { state with known := name :: state.known }
      runLaunch engine replaces (launchFirst state name arguments .notFound paths) name

/-- Becomes another program. -/
def becomeProgram (engine : Engine) (name : List Char) (arguments : List (List Char)) :
    Run Nat := do
  let state ← get
  let paths := if name.contains '/' then [name] else state.programPaths name
  let status ← runLaunch engine true (launchFirst state name arguments .notFound paths) name
  setStatus status
  throw .leave

/-- Runs a builtin command; an error in one that is not special only gives it a status. -/
def callBuiltin (engine : Engine) (context : Context) (isSpecial : Bool) (name : String)
    (arguments : List (List Char)) : Run Nat := do
  let before := (← get).speaker
  modify fun state => { state with speaker := some name.toList, isMute := false }
  let run : Run Nat := do
    match name, arguments with
    | "exec", ['-', '-'] :: program :: rest | "exec", program :: rest =>
      becomeProgram engine program rest
    | _, _ => runBuiltin engine context name arguments
  let status ← eventually
    (do
      let status ←
        try run
        catch
          | .failure =>
            if isSpecial then throw .failure
            pure 2
          | interrupt => throw interrupt
      if (← get).isMute then
        complain (name.toList ++ ": I/O error".toList)
        modify fun state => { state with isMute := false }
        return status ||| 1
      return status)
    (modify fun state => { state with speaker := before })
  return status

/-- The fields without the prefix that keeps functions from being called, and whether there was
one. -/
def withoutPrefix (fuel : Nat) (fields : List (List Char)) : List (List Char) × Bool :=
  let rec afterOptions : List (List Char) → Option (List (List Char))
    | ['-', '-'] :: rest => if rest.isEmpty then none else some rest
    | ('-' :: c :: letters) :: rest =>
      if (c :: letters).all (· = 'p') then afterOptions rest else none
    | [] => none
    | rest => some rest
  match fuel, fields with
  | fuel + 1, name :: rest =>
    if name = "command".toList then
      match afterOptions rest with
      | some rest => ((withoutPrefix fuel rest).1, true)
      | none => (fields, false)
    else (fields, false)
  | _, fields => (fields, false)

/-- Whether a command takes assignments as arguments. -/
def declares (fields : List (List Char)) : Bool :=
  match (withoutPrefix fields.length fields).1 with
  | name :: _ => ["export", "readonly", "local"].contains (String.ofList name)
  | [] => false

/-- Expands the words of a simple command after those expanded before. -/
def commandFields (engine : Engine) (fields : List (List Char)) : List Word → Run (List (List Char))
  | [] => return fields
  | word :: rest => do
    let more ←
      if isAssignment word && declares fields then
        pure [← expandText engine .inAssignment word]
      else expandFields engine word
    commandFields engine (fields ++ more) rest

/-- Writes a command that is about to be run to the error stream, if that is asked for. -/
def trace (descriptors : Descriptors) (assignments fields : List (List Char)) : Run Unit := do
  let state ← get
  if !state.isOn 'x' then return
  let sign := (state.value? "PS4".toList).getD []
  let _ ← tryWrite descriptors 2 (sign ++ Text.joinWith [' '] (assignments ++ fields) ++ ['\n'])

/-- The name that an assignment is for. -/
def assignedName : Word → List Char
  | .text _ s :: _ => s.takeWhile (· ≠ '=')
  | _ => []

/-- Runs a simple command. -/
def runSimple (engine : Engine) (context : Context) (assignments words : List Word)
    (redirections : List Redirection) : Run Nat := do
  modify fun state => { state with inner := 0 }
  let fields ← commandFields engine [] words
  let (command, isPlain) := withoutPrefix fields.length fields
  let state ← get
  let meaning := command.head?.map (state.meaning (!isPlain))
  let isSpecial := !isPlain && match meaning with
    | some (.builtin name) => specialBuiltins.contains name
    | _ => false
  let connections ← redirections.mapM (expandRedirection engine)
  if !(← connectSaving engine connections) then
    setStatus 2
    if isSpecial then throw .failure
    return 2
  let isTemporary := !command.isEmpty && !isSpecial
  let before ← get
  let old :=
    if isTemporary then
      (assignments.map assignedName).map fun name => (name, before.values.lookup name)
    else []
  let isExec := command.head? = some "exec".toList
  eventually
    (do
      let texts ← assignments.mapM fun word => do
        let text ← expandText engine .inAssignment word
        let (name, value) := splitAssignment text
        assign name value (isTemporary || (isExec && 1 < command.length))
        return text
      trace state.descriptors texts fields
      match meaning, command with
      | some (.builtin name), _ :: arguments =>
        callBuiltin engine context isSpecial name arguments
      | some (.function body), _ :: arguments => callFunction engine context body arguments
      | some .program, name :: arguments => runProgram engine context name arguments
      | _, _ => return (← get).inner)
    (do
      restore old
      modify fun after =>
        after.holding (if isExec then after.descriptors else state.descriptors) state.saved)

/-- Starts a command in the background, the stages of a pipeline as processes of one job. -/
def startJob (engine : Engine) (context : Context) (script : Script)
    (redirections : List Redirection) : Run Nat := do
  let connections ← redirections.mapM (expandRedirection engine)
  let number ← takeJobNumber
  let input ← openStream .null
  let processes ← match script, connections with
    | .pipeline stages, [] => startStages engine true context.tested (some input) stages
    | _, _ => do
      let process ← fork engine true (connect 0 (some input)) do
        if ← connectAll engine connections then
          let _ ← engine.run { isLast := true } script
        else setStatus 2
      pure [process]
  let job : Job := { number, processes := processes.map fun process => (process, none) }
  modify fun state => { state with background := job.last?, jobs := job :: state.jobs }
  return 0

/-- Runs a command in a process of its own, or in the shell if nothing comes after it. -/
def runSubshell (engine : Engine) (context : Context) (script : Script)
    (redirections : List Redirection) : Run Nat := do
  let connections ← redirections.mapM (expandRedirection engine)
  let step : Run Unit := do
    if ← connectAll engine connections then
      let status ← engine.run { context with isLast := true } script
      setStatus status
    else setStatus 2
  if context.isLast && !(← get).hasActions then
    step
    throw .leave
  let ending ← inSubshell engine step
  return ending.status

/-- Runs a command of any kind; the result is its status. -/
def dispatch (engine : Engine) (context : Context) (script : Script) : Run Nat := do
  let onLine (line : Nat) : Run Unit := modify fun state => { state with line }
  let inside : Context := { context with isLast := false }
  match script with
  | .nothing => return (← get).status
  | .simple line assignments words redirections =>
    onLine line
    runSimple engine context assignments words redirections
  | .pipeline stages => runStages engine context stages
  | .negate script =>
    let status ← engine.run { tested := true } script
    return if status = 0 then 1 else 0
  | .both left right =>
    let status ← engine.run { tested := true } left
    if status = 0 then engine.run context right else return status
  | .either left right =>
    let status ← engine.run { tested := true } left
    if status = 0 then return status else engine.run context right
  | .sequence first second =>
    let _ ← engine.run inside first
    engine.run context second
  | .background line script redirections =>
    if line ≠ 0 then onLine line
    startJob engine context script redirections
  | .branch condition yes no =>
    let status ← engine.run { tested := true } condition
    if status = 0 then engine.run context yes
    else
      match no with
      | some no => engine.run context no
      | none => return 0
  | .loop wanted condition body =>
    deeper (runRounds (engine.run { tested := true } condition) (engine.run inside body) wanted
      roundLimit 0)
  | .each line name words body =>
    onLine line
    let values ← expandWords engine words
    deeper (runEach name (engine.run inside body) 0 values)
  | .select line word clauses =>
    onLine line
    let s ← expandText engine .atStart word
    runClause engine context s clauses
  | .redirected line script redirections =>
    onLine line
    withRedirections engine redirections (engine.run inside script)
  | .subshell line script redirections =>
    onLine line
    runSubshell engine context script redirections
  | .define name body =>
    modify fun state =>
      { state with functions := (name, body) :: state.functions.filter (·.1 != name) }
    return 0

/-- Whether a failure of a command can end a strict shell. -/
def isChecked : Script → Bool
  | .simple .. | .pipeline _ | .subshell .. => true
  | _ => false

/-- How much time a command takes at least. -/
def commandTime : Nat := 20000

/-- Runs a command and the actions for signals that arrive. -/
def evaluate (engine : Engine) (context : Context) (script : Script) : Run Nat := do
  if (← get).isOn 'n' then return (← get).status
  modify fun state => { state with kernel := state.kernel.spend commandTime }
  if (← get).kernel.isTurnOver then Strand.pause .turn
  runActions engine
  let status ← dispatch engine context script
  setStatus status
  runActions engine
  if isChecked script && status ≠ 0 && !context.tested && (← get).isOn 'e' then throw .leave
  return (← get).status

end CheckedBuild.Shell
