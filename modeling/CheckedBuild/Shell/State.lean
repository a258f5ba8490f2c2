import CheckedBuild.Machine.Process
import CheckedBuild.Shell.Syntax

/-!
# The state of a shell

A shell has variables, positional parameters, descriptors, functions, traps, jobs and the status
of the last command. What it does is a step on this state, which an interrupt may cut short. The
kernel knows which streams the shell holds open and what it does about signals, and is told
whenever that changes.
-/

namespace CheckedBuild.Shell

open CheckedBuild.Machine

/-- A variable. It may be marked without having a value. -/
structure Variable where
  value : Option (List Char) := none
  isExported : Bool := false
  isReadOnly : Bool := false

/-- A command that was put into the background. -/
structure Job where
  /-- The number by which the shell calls it. -/
  number : Nat
  /-- Its processes, and how those have ended that are known to have ended. -/
  processes : List (Nat × Option Ending)
  /-- Whether somebody has waited for its end. -/
  isWaited : Bool := false

namespace Job

/-- Whether all processes of a job have ended. -/
def isDone (job : Job) : Bool := job.processes.all fun process => process.2.isSome

/-- The process that a job ends with. -/
def last? (job : Job) : Option Nat := job.processes.getLast?.map (·.1)

/-- How the last process of a job has ended. -/
def ending (job : Job) : Ending := ((job.processes.getLast?).bind (·.2)).getD (.exited 0)

/-- The job after some processes have ended. -/
def after (job : Job) (ended : List (Nat × Ending)) : Job :=
  { job with
    processes := job.processes.map fun (process, ending?) =>
      (process, ending? <|> ended.lookup process) }

end Job

/-- A running shell. -/
structure State where
  kernel : Kernel
  descriptors : Descriptors
  /-- The streams that are put back when redirections end, and those that are being read. -/
  saved : List Nat := []
  /-- The path by which the shell came to its working directory. -/
  directory : List Char := ['/']
  values : List (List Char × Variable) := []
  parameters : List (List Char) := []
  /-- The name of the script, or of the shell itself. -/
  name : List Char := []
  /-- The builtin command or the file that messages name. -/
  speaker : Option (List Char) := none
  line : Nat := 1
  /-- The line up to which the script has been read. -/
  sourceLine : Nat := 1
  status : Nat := 0
  /-- The status of the last script inside of a word. -/
  inner : Nat := 0
  /-- The letters of the options that are on. -/
  options : List Char := []
  functions : List (List Char × Script) := []
  documents : Array Word := #[]
  /-- The number of the shell, which its subshells share. -/
  process : Nat := 0
  /-- The number of the process itself. -/
  self : Nat := 0
  /-- The number of the last command in the background. -/
  background : Option Nat := none
  /-- The commands in the background, the newest one first. -/
  jobs : List Job := []
  /-- The actions for signals, and under zero the one for the end of the shell. -/
  traps : List (Nat × List Char) := []
  /-- The signals for which no action can be set. -/
  unheard : List Nat := []
  /-- How many loops the command is in. -/
  loops : Nat := 0
  /-- For every function being run what its local variables were before. -/
  locals : List (List (List Char × Option Variable)) := []
  /-- How far the options of the current argument have been read. -/
  optionOffset : Nat := 0
  /-- Programs that have been looked for and found. -/
  known : List (List Char) := []
  /-- Whether a builtin command could not write its output. -/
  isMute : Bool := false

/-- Why a command does not come to its end. -/
inductive Interrupt where
  /-- An error, which has been reported. -/
  | failure
  | leave
  /-- The process has ended: it was killed or has become another program. -/
  | ended (ending : Ending)
  | breakOut (levels : Nat)
  | goOn (levels : Nat)
  | comeBack

/-- What a shell does. -/
abbrev Run := Strand Interrupt State

instance : OfKernel State := ⟨State.kernel, fun state kernel => { state with kernel }⟩

namespace State

/-- The state after the kernel has been told what the shell does about signals. -/
def declaring (state : State) : State :=
  let (silent, loud) := state.traps.partition fun trap => trap.2.isEmpty
  let heard := loud.map (·.1) |>.filter fun signal => !state.unheard.contains signal
  { state with
    kernel := state.kernel.changeOwn fun entry =>
      { entry with ignored := state.unheard ++ silent.map (·.1), caught := heard } }

/-- The state after the kernel has been told which streams the shell holds open. -/
def holding (state : State) (descriptors : Descriptors) (saved : List Nat) : State :=
  { state with
    descriptors, saved, kernel := state.kernel.hold (descriptors.streams ++ saved) }

/-- The value of a variable. -/
def value? (state : State) (name : List Char) : Option (List Char) :=
  (state.values.lookup name).bind (·.value)

/-- Puts a variable in the place of the one with its name, or after all others. -/
def put (state : State) (name : List Char) (setting? : Option Variable) : State :=
  { state with
    values := match setting? with
      | some found =>
        if state.values.any (·.1 == name) then
          state.values.map fun entry => if entry.1 = name then (name, found) else entry
        else state.values ++ [(name, found)]
      | none => state.values.filter (·.1 != name) }

/-- Whether an option is on. -/
def isOn (state : State) (option : Char) : Bool := state.options.contains option

/-- The search path. -/
def searchPath (state : State) : String :=
  textOfRaw ((state.value? "PATH".toList).getD [])

/-- The characters at which fields are split. -/
def separators (state : State) : List Char :=
  (state.value? "IFS".toList).getD " \t\n".toList

/-- What stands between the positional parameters when they are joined. -/
def joint (state : State) : List Char := state.separators.take 1

/-- Where a variable stands in the table that programs inherit. -/
def bucket (name : List Char) : Nat :=
  (name.foldl (fun n c => n + c.toNat) (16 * (name.headD '\x00').toNat)) % 39

/-- The variables that programs inherit, as they are handed over. -/
def given (state : State) : List (List Char) :=
  let exported := state.values.filterMap fun (name, found) =>
    if found.isExported then found.value.map fun value => (bucket name, name ++ '=' :: value)
    else none
  (exported.mergeSort fun a b => a.1 ≤ b.1).map (·.2)

end State

/-- A step of a tool as a step of a shell. -/
def asTool {α : Type} (step : Step α) : Run α := Strand.enlarge .ended step

/-- Writes to a descriptor, if that can be done; if not, the result tells why. -/
def tryWrite (descriptors : Descriptors) (descriptor : Nat) (s : List Char) :
    Run (Option Refusal) :=
  match descriptors.lookup descriptor with
  | some number => asTool (putAll number (bytesOfRaw s))
  | none => return some .badDescriptor

/-- Writes to a descriptor of the shell, if that can be done. -/
def write (descriptor : Nat) (s : List Char) : Run Unit := do
  let _ ← tryWrite (← get).descriptors descriptor s

/-- Writes the output of a builtin command. -/
def print (s : List Char) : Run Unit := do
  if s.isEmpty then return
  let refusal? ← tryWrite (← get).descriptors 1 s
  if refusal?.isSome then modify fun state => { state with isMute := true }

/-- The text in front of a message. -/
def State.heading (state : State) : List Char :=
  let speaker := match state.speaker with
    | some speaker => speaker ++ ": ".toList
    | none => []
  state.name ++ ": ".toList ++ decimal state.line ++ ": ".toList ++ speaker

/-- Writes a message to the error stream. -/
def complain (message : List Char) : Run Unit := do
  write 2 ((← get).heading ++ message ++ ['\n'])

/-- Sets the status. -/
def setStatus (status : Nat) : Run Unit := modify fun state => { state with status }

/-- Reports an error, which ends the shell unless it is caught. -/
def fail {α : Type} (message : List Char) : Run α := do
  complain message
  setStatus 2
  throw .failure

/-- Reports a text that is no number. -/
def illegalNumber {α : Type} (s : List Char) : Run α := fail ("Illegal number: ".toList ++ s)

/-- A natural number that an argument gives. -/
def numberFrom (s : List Char) : Run Nat :=
  match Text.natural? s with
  | some n => if n ≤ 2147483647 then return n else illegalNumber s
  | none => illegalNumber s

/-- Sets a variable, which is exported if it was or if that is asked for. -/
def assign (name value : List Char) (exports : Bool) : Run Unit := do
  let state ← get
  let old := (state.values.lookup name).getD {}
  if old.isReadOnly then fail (name ++ ": is read only".toList)
  if name = "OPTIND".toList then
    let _ ← if value.isEmpty then pure 0 else numberFrom value
    modify fun state => { state with optionOffset := 0 }
  modify fun state =>
    state.put name (some { old with
      value := some value, isExported := old.isExported || exports || state.isOn 'a' })

/-- Removes a variable. -/
def unset (name : List Char) : Run Unit := do
  match (← get).values.lookup name with
  | some found =>
    if found.isReadOnly then fail (name ++ ": is read only".toList)
    modify fun state => state.put name none
  | none => return

/-- The value of a parameter that is not a list, if it is set. -/
def State.parameter? (state : State) (name : List Char) : Option (List Char) :=
  match name with
  | ['#'] => some (decimal state.parameters.length)
  | ['?'] => some (decimal state.status)
  | ['$'] => some (decimal state.process)
  | ['!'] => state.background.map decimal
  | ['-'] => some state.options
  | ['@'] | ['*'] =>
    if state.parameters.isEmpty then none
    else some (state.parameters.intersperse state.joint).flatten
  | _ =>
    match Text.natural? name with
    | some 0 => some state.name
    | some (n + 1) => state.parameters[n]?
    | none => state.value? name

/-- A name and a value out of an argument with an equals sign. -/
def splitAssignment (s : List Char) : List Char × List Char :=
  (s.takeWhile (· ≠ '='), (s.dropWhile (· ≠ '=')).drop 1)

/-- A text in single quotes, its own ones being put between double ones; `fuel` is no less than
its length. -/
def inQuotes (fuel : Nat) (s : List Char) : List Char :=
  let plain := s.takeWhile (· ≠ '\'')
  let rest := s.drop plain.length
  let marks := rest.takeWhile (· = '\'')
  let later := rest.drop marks.length
  let first := '\'' :: plain ++ ['\'']
  match fuel with
  | 0 => first
  | fuel + 1 =>
    if marks.isEmpty then first
    else first ++ '"' :: marks ++ '"' :: (if later.isEmpty then [] else inQuotes fuel later)

/-- Runs a step whatever it ends in, and then another one. -/
def eventually {α : Type} (step : Run α) (after : Run Unit) : Run α := do
  let result ←
    try
      let result ← step
      after
      pure result
    catch interrupt =>
      after
      throw interrupt
  return result

end CheckedBuild.Shell
