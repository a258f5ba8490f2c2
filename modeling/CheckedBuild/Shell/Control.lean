import CheckedBuild.Shell.Settings

/-!
# Builtin commands on control and processes

These commands leave loops, functions and the shell, run texts and files as commands, set the
actions for signals and send signals. Commands in the background are jobs: they are listed and
waited for.
-/

namespace CheckedBuild.Shell

open CheckedBuild.Machine

/-- Leaves loops, or goes on with their next round. -/
def leaveLoops (goesOn : Bool) (arguments : List (List Char)) : Run Nat := do
  let n ← match arguments with
    | [] => pure 1
    | s :: _ =>
      let n ← numberFrom s
      if n = 0 then illegalNumber s
      pure n
  let levels := min n (← get).loops
  if levels = 0 then return 0
  setStatus 0
  throw (if goesOn then .goOn levels else .breakOut levels)

/-- Leaves a function, a file or the shell with a status. -/
def leaveWith (interrupt : Interrupt) (arguments : List (List Char)) : Run Nat := do
  match arguments with
  | [] => pure ()
  | s :: _ => setStatus (← numberFrom s)
  throw interrupt

/-- Runs the arguments as a text. -/
def runArguments (engine : Engine) (context : Context) (arguments : List (List Char)) :
    Run Nat := do
  runText engine { context with isLast := false } (Text.joinWith [' '] arguments)

/-- The path of a file to be read as commands. -/
def State.findFile (state : State) (name : List Char) : Option (List Char) :=
  if name.contains '/' then some name
  else
    (state.programPaths name).find? fun path => state.kernel.files.isFile (textOfRaw path)

/-- Runs the commands in a file. -/
def runFile (engine : Engine) (arguments : List (List Char)) : Run Nat := do
  let (_, operands) ← takeFlags "" arguments
  match operands with
  | [] => return 0
  | name :: _ =>
    match (← get).findFile name with
    | none => fail (name ++ ": not found".toList)
    | some path =>
      let number ← opened "cannot open " "No such file" path
        fun kernel descriptors => kernel.openForReading descriptors (textOfRaw path)
      let saved := (← get).saved
      modify fun state => state.holding state.descriptors (number :: saved)
      let before := (← get).speaker
      modify fun state => { state with speaker := some path }
      eventually
        (do
          try runStream engine number
          catch
            | .comeBack => return (← get).status
            | interrupt => throw interrupt)
        (modify fun state => { state.holding state.descriptors saved with speaker := before })

/-- The number of a signal that is given by its number or its name. -/
def signalOf? (s : List Char) : Option Nat :=
  match Text.natural? s with
  | some n => if n ≤ 64 then some n else none
  | none => Signal.number? (String.ofList s).toUpper

/-- Shows the actions for signals. -/
def showActions : Run Unit := do
  let traps := (← get).traps
  (List.range 65).forM fun signal => do
    match traps.lookup signal, Signal.name? signal with
    | some action, some name =>
      print ("trap -- ".toList ++ inQuotes action.length action ++ ' ' :: name.toList ++ ['\n'])
    | _, _ => return

/-- Sets the actions for signals. -/
def setActions (arguments : List (List Char)) : Run Nat := do
  let (_, operands) ← takeFlags "" arguments
  let (action, names) := match operands with
    | [] => (none, [])
    | [name] => (none, [name])
    | first :: rest =>
      if (Text.natural? first).isSome then (none, operands)
      else (if first = ['-'] then none else some first, rest)
  if operands.isEmpty then
    showActions
    return 0
  for name in names do
    match signalOf? name with
    | none =>
      write 2 ("trap: ".toList ++ name ++ ": bad trap\n".toList)
      return 1
    | some signal =>
      modify fun state =>
        let others := state.traps.filter (·.1 != signal)
        { state with
          traps := match action with
            | some action => (signal, action) :: others
            | none => others }
      modify State.declaring
  return 0

/-- The processes that a target of a signal stands for: one of them, or a group. -/
def State.targets (state : State) (isGroup : Bool) (number : Nat) : List Nat :=
  let table := state.kernel.table
  let group := if isGroup then some number
    else if number = 0 then state.kernel.own?.map fun (entry : ProcessEntry) => entry.group
    else none
  match group with
  | some group =>
    (table.filter fun entry => entry.group == group).map fun entry => entry.number
  | none => (table.entry? number).toList.map fun entry => entry.number

/-- Sends a signal to some processes, of which the shell may be one. -/
def send (signal : Nat) (processes : List Nat) : Run Unit := do
  modify fun state =>
    let table := processes.foldl
      (fun (table : Table) process => table.signal process signal) state.kernel.table
    { state with kernel := { state.kernel with table } }
  let state ← get
  if processes.contains state.self then
    match state.kernel.own? with
    | some entry =>
      if entry.ending.isSome then throw (.ended (.killed signal))
      if entry.isStopped then Strand.pause .turn
    | none => throw (.ended (.killed signal))

/-- The job that an argument stands for. -/
def jobFrom (s : List Char) : Run Job := do
  let jobs := (← get).jobs
  let found (job? : Option Job) (message : String) : Run Job :=
    match job? with
    | some job => return job
    | none => fail message.toList
  match s with
  | ['%'] | ['%', '%'] | ['%', '+'] => found jobs.head? "No current job"
  | ['%', '-'] => found (jobs[1]?) "No previous job"
  | _ =>
    let number? := if s.head? = some '%' then Text.natural? (s.drop 1) else none
    found (number?.bind fun number => jobs.find? (·.number == number))
      ("No such job: " ++ textOfRaw s)

/-- How `kill` is used. -/
def killUsage : String :=
  "Usage: kill [-s sigspec | -signum | -sigspec] [pid | job]... or\nkill -l [exitstatus]"

/-- Shows the names of signals. -/
def showSignals (operands : List (List Char)) : Run Nat := do
  match operands with
  | [] => print (Signal.names.flatMap fun name => name.toList ++ ['\n'])
  | s :: _ =>
    let n ← numberFrom s
    match Signal.name? (if 128 < n then n - 128 else n) with
    | some name => print (name.toList ++ ['\n'])
    | none => fail ("invalid signal number or exit status: ".toList ++ s)
  return 0

/-- Sends a signal to processes. -/
def sendAll (signal : Nat) (targets : List (List Char)) : Run Nat := do
  if targets.isEmpty then fail killUsage.toList
  targets.foldlM (fun status target => do
    let processes ← match target with
      | '%' :: _ => do
        let leader := ((← jobFrom target).processes.head?.map (·.1)).getD 0
        pure ((← get).targets true leader)
      | '-' :: digits => do
        let number ← numberFrom digits
        pure ((← get).targets true number)
      | _ => do
        let number ← numberFrom target
        pure ((← get).targets false number)
    if processes.isEmpty then
      complain "No such process\n".toList
      return 1
    send signal processes
    return status) 0

/-- Sends signals or shows their names. -/
def kill (arguments : List (List Char)) : Run Nat := do
  let rest (arguments : List (List Char)) : List (List Char) :=
    if arguments.head? = some ['-', '-'] then arguments.tail else arguments
  match arguments with
  | [] => fail killUsage.toList
  | ['-', 'l'] :: operands => showSignals operands
  | ['-', 's'] :: name :: targets =>
    match signalOf? name with
    | some signal => sendAll signal (rest targets)
    | none => fail ("invalid signal number or name: ".toList ++ name)
  | ['-', '-'] :: targets => sendAll 15 targets
  | ('-' :: c :: name) :: targets =>
    match signalOf? (c :: name) with
    | some signal => sendAll signal (rest targets)
    | none => fail ("Illegal option -".toList ++ [c])
  | targets => sendAll 15 targets

/-- Waits until a process that the shell has started has ended. If a signal comes first, the
result is that signal. -/
def awaitChange : Run (List (Nat × Ending) × Option Nat) := do
  let self := (← get).self
  Strand.pause { isOver := fun kernel => kernel.hasEndings self || kernel.hasSignals self }
  let ended ← takeEndings
  let signals := ((← get).kernel.own?.map fun (entry : ProcessEntry) => entry.pending).getD []
  return (ended, if ended.isEmpty then signals.getLast? else none)

/-- Marks the newest jobs that have ended, up to one that has not. -/
def State.withWaited (state : State) : State :=
  let ended := state.jobs.takeWhile Job.isDone
  { state with
    jobs := ended.map (fun job => { job with isWaited := true }) ++ state.jobs.drop ended.length }

/-- Waits until all jobs have ended. The result is the signal that came before that. -/
def awaitJobs (fuel : Nat) : Run (Option Nat) := do
  match fuel with
  | 0 => return none
  | fuel + 1 =>
    modify State.withWaited
    if (← get).jobs.all Job.isDone then return none
    match ← awaitChange with
    | (_, some signal) => return some signal
    | (_, none) => awaitJobs fuel

/-- Waits until a job has ended, and reports the signals that killed its processes. The result is
the signal that came before that. -/
def awaitJob (fuel : Nat) (job : Job) : Run (Option Nat) := do
  match fuel with
  | 0 => return none
  | fuel + 1 =>
    if job.isDone then return none
    match ← awaitChange with
    | (_, some signal) => return some signal
    | (ended, none) =>
      ended.forM fun (process, ending) =>
        if job.processes.any (·.1 == process) then reportEnding ending else return
      awaitJob fuel (job.after ended)

/-- Waits for the jobs that arguments stand for, one after the other; `status` is that of those
before. -/
def awaitEach (status : Nat) : List (List Char) → Run Nat
  | [] => return status
  | target :: rest => do
    let job? ← match target with
      | '%' :: _ => some <$> jobFrom target
      | _ => do
        let process ← numberFrom target
        pure ((← get).jobs.find? fun job => job.last? == some process)
    match job? with
    | none => awaitEach status rest
    | some job =>
      match ← awaitJob pieceLimit job with
      | some signal => return 128 + signal
      | none =>
        let jobs := (← get).jobs.map fun other =>
          if other.number = job.number then { other with isWaited := true } else other
        modify fun state => { state with jobs }
        let ending := (jobs.find? (·.number == job.number)).map Job.ending
        awaitEach ((ending.getD (.exited 0)).status) rest

/-- Waits for commands in the background. -/
def waitFor (arguments : List (List Char)) : Run Nat := do
  let (_, operands) ← takeFlags "" arguments
  if !operands.isEmpty then return ← awaitEach 127 operands
  match ← awaitJobs pieceLimit with
  | some signal => return 128 + signal
  | none => return 0

/-- How a job is listed. Its state stands in a column of its own, and commands are not kept. -/
def Job.listing (state : State) (showsProcesses : Bool) (job : Job) : List Char :=
  let is (job? : Option Job) : Bool := (job?.map Job.number) == some job.number
  let sign := if is state.jobs.head? then '+' else if is state.jobs[1]? then '-' else ' '
  let number := '[' :: decimal job.number ++ [']', ' ']
  let heading := number ++ [sign, ' ']
  let condition : List Char :=
    if !job.isDone then "Running".toList
    else
      match job.ending with
      | .exited 0 => "Done".toList
      | .exited status => "Done(".toList ++ decimal status ++ [')']
      | .killed signal => ((Signal.message? signal).getD
          (if signal = 2 then "Interrupt" else if signal = 13 then "Broken pipe"
          else "Unknown signal")).toList
  let filled (width : Nat) (s : List Char) : List Char :=
    s ++ List.replicate (max 1 (width - s.length)) ' '
  let processes := job.processes.map (·.1)
  if showsProcesses then
    let first := heading ++ decimal (processes.headD 0) ++ ' ' :: condition
    let later := processes.tail.map fun process =>
      " |\n".toList ++ List.replicate heading.length ' ' ++ decimal process ++ [' ']
    (filled 33 first ++ later.flatMap (filled 36)) ++ ['\n']
  else
    filled 33 (heading ++ condition) ++ processes.tail.flatMap (fun _ => " | ".toList) ++ ['\n']

/-- Lists jobs. Those that have ended are forgotten then. -/
def listJobs (arguments : List (List Char)) : Run Nat := do
  let (flags, operands) ← takeFlags "lp" arguments
  let list (job : Job) : Run Unit := do
    match flags.getLast? with
    | some 'p' => print (decimal ((job.processes.head?.map (·.1)).getD 0) ++ ['\n'])
    | flag =>
      print (job.listing (← get) (flag = some 'l'))
      if job.isDone then
        modify fun state =>
          { state with jobs := state.jobs.filter fun other => other.number != job.number }
  if operands.isEmpty then
    let _ ← takeEndings
    (← get).jobs.forM list
  else operands.forM fun operand => do list (← jobFrom operand)
  return 0

/-- Refuses to control a job: the shell does not give its terminal away. -/
def refuseControl (arguments : List (List Char)) : Run Nat := do
  let (_, operands) ← takeFlags "" arguments
  let name := operands.headD ['%']
  let _ ← jobFrom name
  let shown := if operands.isEmpty then "(null)".toList else name
  fail ("job ".toList ++ shown ++ " not created under job control".toList)

/-- Runs a builtin command by its name. The commands that run others get their engine. -/
def runBuiltin (engine : Engine) (context : Context) (name : String)
    (arguments : List (List Char)) : Run Nat := do
  match name with
  | ":" | "true" => return 0
  | "false" => return 1
  | "echo" =>
    print (Format.echo true arguments)
    return 0
  | "printf" => printFormatted arguments
  | "test" => testCondition false arguments
  | "[" => testCondition true arguments
  | "pwd" => showDirectory arguments
  | "cd" | "chdir" => changeDirectory arguments
  | "umask" => changeMask arguments
  | "ulimit" =>
    let (_, operands) ← takeOptions "HStfdsmcnpvwrl" "" 9 arguments >>= fun letters =>
      pure (letters.options, letters.operands)
    if operands.isEmpty then print "unlimited\n".toList
    return 0
  | "type" => describeAll arguments
  | "hash" => remember arguments
  | "alias" | "unalias" => return 0
  | "times" =>
    print "0m0.000000s 0m0.000000s\n0m0.000000s 0m0.000000s\n".toList
    return 0
  | "export" | "readonly" => markVariables name arguments
  | "local" => makeLocal arguments
  | "unset" => removeAll arguments
  | "set" => changeSettings arguments
  | "shift" => shiftParameters arguments
  | "getopts" => takeOption arguments
  | "read" => readVariables arguments
  | "break" => leaveLoops false arguments
  | "continue" => leaveLoops true arguments
  | "exit" => leaveWith .leave arguments
  | "return" => leaveWith .comeBack arguments
  | "eval" => runArguments engine context arguments
  | "." => runFile engine arguments
  | "trap" => setActions arguments
  | "kill" => kill arguments
  | "wait" => waitFor arguments
  | "jobs" => listJobs arguments
  | "fg" | "bg" => refuseControl arguments
  | "command" =>
    let (flags, operands) ← takeFlags "pvV" arguments
    if flags.contains 'v' || flags.contains 'V' then
      match operands with
      | operand :: _ => describe (flags.contains 'V') operand
      | [] => return 0
    else return 0
  | _ => return 0

end CheckedBuild.Shell
