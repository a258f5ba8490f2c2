import CheckedBuild.Shell.Grammar
import CheckedBuild.Machine.Signal
import CheckedBuild.Shell.State

/-!
# Processes of a shell

A shell runs texts command by command, and it runs commands in processes of their own, which work
on the same files and streams. It waits for those in the foreground, and takes note of all others
that have ended meanwhile. At its end a shell runs the action for its end. What runs a single
command is a parameter here.
-/

namespace CheckedBuild.Shell

open CheckedBuild.Machine

/-- The circumstances in which a command runs. -/
structure Context where
  /-- Its status is looked at, so that a failure does not end a strict shell. -/
  tested : Bool := false
  /-- Nothing comes after it, so that a program takes the place of the shell. -/
  isLast : Bool := false

/-- A piece of an expanded word. -/
inductive Piece where
  | text (quoted : Bool) (s : List Char)
  /-- To be split at separators. -/
  | loose (s : List Char)
  /-- A quotation mark, which makes a field even of nothing. -/
  | mark
  /-- Between two positional parameters. In quotes it ends a field even if there is nothing in
  it. -/
  | gap (quoted : Bool)
deriving DecidableEq, Repr

/-- What runs commands, expands words inside of words and runs programs. -/
structure Engine where
  run : Context → Script → Run Nat
  /-- The flag tells that plain text is split, too. -/
  expand : Bool → Word → Run (List Piece)
  start : Starter

/-- Runs a command that has been read. -/
def runRead (engine : Engine) (context : Context) (script : Script) (reader : Reader) :
    Run Nat := do
  modify fun state =>
    { state with documents := reader.documents, sourceLine := reader.line }
  engine.run context script

/-- Runs the commands that are left to read, after one with the given status. -/
def runCommands (engine : Engine) (context : Context) (fuel : Nat) (reader : Reader)
    (status : Nat) : Run Nat := do
  match fuel with
  | 0 => return status
  | fuel + 1 =>
    match Reading.readCommandLine.run { reader with documents := (← get).documents } with
    | .error fault =>
      modify fun state => { state with line := fault.line }
      fail fault.message.toList
    | .ok (.done, _) => return status
    | .ok (.command .nothing _, reader) =>
      modify fun state =>
        { state with documents := reader.documents, sourceLine := reader.line }
      runCommands engine context fuel reader status
    | .ok (.command script isLast, reader) =>
      let status ←
        runRead engine { context with isLast := context.isLast && isLast } script reader
      runCommands engine context fuel reader status

/-- Runs a text; the status of no command at all is zero. -/
def runText (engine : Engine) (context : Context) (text : List Char) : Run Nat :=
  runCommands engine context (text.length + 1) { input := text } 0

/-- A command that does nothing. If reading a script does not get to it, what stands in front of
it holds a whole command. -/
def guardLine : List Char := ":\n".toList

/-- How much of a script is read at once. -/
def scriptPiece : Nat := 8192

/-- Runs the commands that come from a stream, each one as soon as it has come as a whole; the
reader holds what has been read but not run. -/
def runArriving (engine : Engine) (fuel number : Nat) (reader : Reader) (status : Nat) :
    Run Nat := do
  match fuel with
  | 0 => return status
  | fuel + 1 =>
    let documents := (← get).documents
    let guarded := reader.input ++ guardLine
    let attempt := Reading.readCommandLine.run
      { reader with input := guarded, fuel := 8 * guarded.length + 64, documents }
    let whole? := match attempt with
      | .ok (.command script _, after) =>
        if guardLine.length ≤ after.input.length then
          let rest := after.input.take (after.input.length - guardLine.length)
          some (script, { after with input := rest })
        else none
      | _ => none
    match whole? with
    | some (script, after) =>
      let status ← match script with
        | .nothing => do
          modify fun state => { state with documents := after.documents, sourceLine := after.line }
          pure status
        | script => runRead engine {} script after
      runArriving engine fuel number after status
    | none =>
      let bytes ← asTool (takeUpTo number scriptPiece)
      let input := reader.input ++ rawOfBytes bytes
      let reader := { reader with input, fuel := 8 * input.length + 64 }
      if bytes.isEmpty then runCommands engine {} (input.length + 1) reader status
      else runArriving engine fuel number reader status

/-- Runs the commands that come from a stream. -/
def runStream (engine : Engine) (number : Nat) : Run Nat :=
  runArriving engine pieceLimit number { input := [] } 0

/-- Runs the actions of the signals that have arrived. The status is kept. -/
def runActions (engine : Engine) : Run Unit := do
  let (signals, kernel) := (← get).kernel.takeSignals
  if signals.isEmpty then return
  modify fun state => { state with kernel }
  (signals.eraseDups.mergeSort fun a b => a ≤ b).forM fun signal => do
    match (← get).traps.lookup signal with
    | some action =>
      let status := (← get).status
      let _ ← runText engine {} action
      setStatus status
    | none => return

/-- Reports how a process ended if a signal killed it. -/
def reportEnding (ending : Ending) : Run Unit := do
  match ending with
  | .killed signal =>
    match Signal.message? signal with
    | some message => write 2 (message.toList ++ ['\n'])
    | none => return
  | .exited _ => return

/-- Takes note of the processes that have ended. -/
def takeEndings : Run (List (Nat × Ending)) :=
  modifyGet fun state =>
    let (ended, kernel) := state.kernel.reap
    if ended.isEmpty then ([], state)
    else (ended, { state with kernel, jobs := state.jobs.map fun job => job.after ended })

/-- Waits until processes in the foreground have ended. The result is how the last one of them
ended, for which `ending` stands so far. -/
def awaitProcesses (fuel : Nat) (last : Nat) (ending : Ending) (processes : List Nat) :
    Run Ending := do
  match fuel with
  | 0 => return ending
  | fuel + 1 =>
    if processes.isEmpty then return ending
    Strand.pause { isOver := fun kernel => processes.any fun process => !kernel.isAlive process }
    let ended := (← takeEndings).filter fun entry => processes.contains entry.1
    ended.forM fun entry => reportEnding entry.2
    awaitProcesses fuel last ((ended.lookup last).getD ending)
      (processes.filter fun process => !ended.any (·.1 == process))

/-- Waits until some processes in the foreground have ended; the result is how the last one of
them ended. -/
def awaitAll (processes : List Nat) : Run Ending :=
  awaitProcesses (processes.length + 1) ((processes.getLast?).getD 0) (.exited 0) processes

/-- The number for a new job: the least one that no other job has, or one whose end has been
waited for. -/
def State.nextJob (state : State) : Nat :=
  let isFree (number : Nat) : Bool :=
    match state.jobs.find? (·.number == number) with
    | some job => job.isDone && job.isWaited
    | none => true
  let numbers := (List.range (state.jobs.length + 1)).map (· + 1)
  (numbers.find? isFree).getD (state.jobs.length + 1)

/-- Takes a number for a new job, which makes an old one of that number forgotten. -/
def takeJobNumber : Run Nat :=
  modifyGet fun state =>
    let number := state.nextJob
    (number, { state with jobs := state.jobs.filter fun job => job.number != number })

/-- Whether signals have actions. -/
def State.hasActions (state : State) : Bool := state.traps.any fun trap => !trap.2.isEmpty

/-- Runs a step to the end of its process: what it is interrupted by is the end, too. -/
def conclude (engine : Engine) (step : Run Unit) : Run Ending := do
  let quietly (step : Run Unit) : Run (Option Ending) :=
    try
      step
      return none
    catch
      | .ended ending => return some ending
      | _ => return none
  let early ← quietly step
  match early with
  | some ending => return ending
  | none =>
    match (← get).traps.lookup 0 with
    | none => return .exited (← get).status
    | some action =>
      let status := (← get).status
      modify fun state => { state with traps := state.traps.filter (·.1 != 0) }
      let caught : Run (Option Ending) := do
        try
          let _ ← runText engine {} action
          setStatus status
          return none
        catch
          | .ended ending => return some ending
          | .leave => return none
          | _ =>
            setStatus status
            return none
      match ← caught with
      | some ending => return ending
      | none => return .exited (← get).status

/-- The shell as a process of its own: without actions, except for ignored signals. In the
background it never hears two of them. -/
def State.forked (state : State) (isBackground : Bool) : State :=
  { state with
    jobs := []
    unheard := state.unheard ++ if isBackground then [2, 3] else []
    traps := state.traps.filter fun trap => trap.1 ≠ 0 && trap.2.isEmpty }

/-- Starts a step in a process of its own, on changed descriptors. The result is its number. -/
def fork (engine : Engine) (isBackground : Bool) (change : Descriptors → Descriptors)
    (step : Run Unit) : Run Nat := do
  let state ← get
  let descriptors := change state.descriptors
  let (self, kernel) := state.kernel.addProcess (descriptors.streams ++ state.saved)
  set { state with kernel }
  let forked := { state.forked isBackground with self, descriptors }
  Strand.fork self fun kernel =>
    (conclude engine step { forked with kernel }.declaring).course id fun _ => .exited 0
  return self

/-- Runs a step in a process of its own and waits for it. -/
def inSubshell (engine : Engine) (step : Run Unit) : Run Ending := do
  let _ ← takeJobNumber
  let process ← fork engine false id step
  awaitAll [process]

/-- Connects a descriptor, or closes it. -/
def connect (descriptor : Nat) (stream : Option Nat) (descriptors : Descriptors) : Descriptors :=
  let others := descriptors.filter (·.1 != descriptor)
  match stream with
  | some number => (descriptor, number) :: others
  | none => others

/-- Opens a stream. -/
def openStream (stream : Stream) : Run Nat :=
  modifyGet fun state =>
    let (number, kernel) := state.kernel.openStream stream
    (number, { state with kernel })

/-- The text without the line feeds at its end. -/
def dropFinalFeeds (s : List Char) : List Char := (s.reverse.dropWhile (· = '\n')).reverse

/-- Adds a pipe; the results are the streams for its readers and for its writers. -/
def openPipe : Run (Nat × Nat) :=
  modifyGet fun state =>
    let (ends, kernel) := state.kernel.openPipe
    (ends, { state with kernel })

/-- What a script prints, without the line feeds at its end. -/
def capture (engine : Engine) (script : Script) : Run (List Char) := do
  match script with
  | .nothing => return []
  | script =>
    let (reader, writer) ← openPipe
    let _ ← takeJobNumber
    let process ← fork engine false (connect 1 (some writer)) do
      let _ ← engine.run { isLast := true } script
    let before := (← get).saved
    modify fun state => state.holding state.descriptors (reader :: before)
    let written ← asTool (takeAll pieceLimit reader [])
    modify fun state => state.holding state.descriptors before
    let ending ← awaitAll [process]
    modify fun state => { state with inner := ending.status }
    return dropFinalFeeds ((rawOfBytes written).filter (· ≠ '\x00'))

end CheckedBuild.Shell
