import CheckedBuild.Machine.Signal
import CheckedBuild.Machine.Tools.Blocks
import CheckedBuild.Machine.Tools.Runners
import CheckedBuild.Text.Rounding

/-!
# Time and priority

These tools let time pass, or run a program that is given less time, a lower priority or other
circumstances. A program whose time is over is sent a signal.
-/

namespace CheckedBuild.Machine.Tools

open Process

/-- A time in nanoseconds. -/
def duration? (s : List Char) : Option Nat :=
  match Text.Floating.readAny? s with
  | some (x, rest) =>
    let unit? : Option Nat := match String.ofList rest with
      | "" | "s" => some 1
      | "m" => some 60
      | "h" => some 3600
      | "d" => some 86400
      | _ => none
    if x < 0 || x.isNaN then none
    else unit?.map fun unit => (x * 1000000000 * Float.ofNat unit).toUInt64.toNat
  | none => none

/-- Lets time pass. -/
def sleep (process : Process) : Step Nat :=
  process.withOptions { plain := "" } 1 fun options => do
    let times := options.operands
    if times.isEmpty then return ← misuse process "missing operand".toList 1
    let wrong := times.filter fun s => (duration? s).isNone
    wrong.forM fun s =>
      process.complain ("invalid time interval ".toList ++ marked s)
    if wrong.isEmpty then
      Strand.pause (.upTo ((← get).files.now + (times.filterMap duration?).foldl (· + ·) 0))
      return 0
    advise process
    return 1

/-- Runs a program that takes no notice of losing its terminal. -/
def nohup (starter : Starter) (process : Process) : Step Nat :=
  process.withOptions { plain := "", strict := true } 125 fun options => do
    if options.operands.isEmpty then
      return ← misuse process "missing operand".toList 125
    modify fun kernel : Kernel => kernel.changeOwn fun entry =>
      { entry with ignored := 1 :: entry.ignored }
    becomeCommand starter process notRun options.operands

/-- Runs a program in a session of its own. -/
def setsid (starter : Starter) (process : Process) : Step Nat :=
  process.withOptions
    { plain := "cfw", strict := true, words := [("ctty", 'c'), ("fork", 'f'), ("wait", 'w')] } 1
    fun options => do
      if options.operands.isEmpty then
        return ← misuse process "no command specified".toList 1
      modify fun kernel : Kernel => kernel.changeOwn fun entry =>
        { entry with group := entry.number }
      becomeCommand starter process (fun name => "failed to execute ".toList ++ name)
        options.operands

/-- Runs a program whose streams are buffered in a given way. -/
def stdbuf (starter : Starter) (process : Process) : Step Nat :=
  process.withOptions
    { plain := "", valued := "ioe", strict := true
      words := [("input", 'i'), ("output", 'o'), ("error", 'e')] } 125
    fun options => do
      let isSize (mode : List Char) : Bool := mode = ['L'] || (byteCount? mode).isSome
      match options.options.find? fun o => !isSize o.2 || o = ('i', ['L']) with
      | some ('i', ['L']) =>
        misuse process "line buffering stdin is meaningless".toList 125
      | some (_, mode) =>
        process.complain ("invalid mode ".toList ++ marked mode)
        return 125
      | none =>
        if options.operands.isEmpty then
          return ← misuse process "missing operand".toList 125
        if options.options.isEmpty then
          return ← misuse process "you must specify a buffering mode option".toList 125
        becomeCommand starter process notRun options.operands

/-- A number without its sign. -/
def withoutSign (s : List Char) : List Char :=
  if s.head? = some '-' || s.head? = some '+' then s.drop 1 else s

/-- The arguments in which a number after a dash, perhaps with a sign, is spelled as the value of
an option. -/
def withAdjustments : List (List Char) → List (List Char)
  | ['-', 'n'] :: value :: rest => ['-', 'n'] :: value :: withAdjustments rest
  | ('-' :: s) :: rest =>
    let digits := withoutSign s
    let isNumber := !digits.isEmpty && digits.all Char.isDigit
    (if isNumber then '-' :: 'n' :: s else '-' :: s) :: withAdjustments rest
  | rest => rest

/-- Runs a program that leaves more to others, or says how much it would. -/
def nice (starter : Starter) (process : Process) : Step Nat :=
  { process with arguments := withAdjustments process.arguments }.withOptions
    { plain := "", valued := "n", strict := true, words := [("adjustment", 'n')] } 125
    fun options => do
      let given := (options.value? 'n').getD "10".toList
      let before := (← get).niceness
      match Text.natural? (withoutSign given), options.operands with
      | none, _ =>
        process.complain ("invalid adjustment ".toList ++ marked given)
        return 125
      | _, [] =>
        if options.has 'n' then
          misuse process "a command must be given with an adjustment".toList 125
        else do
          process.say (closed (decimalOf before))
          return 0
      | some n, command =>
        let change : Int := if given.head? = some '-' then -(n : Int) else n
        let niceness := max (-20) (min 19 (before + change))
        modify fun kernel : Kernel => { kernel with niceness }
        becomeCommand starter process marked command

/-- The number of a signal that is given by its name or its number. -/
def signal? (s : List Char) : Option Nat :=
  let s := s.map Char.toUpper
  let name := if "SIG".toList.isPrefixOf s then s.drop 3 else s
  match Text.natural? s with
  | some n => if n ≤ 64 then some n else none
  | none => if name = "EXIT".toList then some 0 else Signal.number? (String.ofList name)

/-- The name of a signal, or its number. -/
def signalName (signal : Nat) : List Char :=
  ((Signal.name? signal).map String.toList).getD (decimal signal)

/-- What is done about a program that takes too long. -/
structure Watch where
  signal : Nat
  /-- The time that the program has; none at all is no limit. -/
  time : Nat
  /-- The time after the signal in which it has to end. -/
  killTime : Option Nat
  isVerbose : Bool
  /-- The programs that it has started itself get no signal. -/
  isForeground : Bool
  keepsStatus : Bool

/-- Waits for a process up to a time; without a deadline it waits to the end. -/
def awaitUpTo (number : Nat) (deadline : Option Nat) : Step Unit :=
  Strand.pause { isOver := fun kernel => !kernel.isAlive number, deadline }

/-- Sends a signal to a process, and to all others of its group that are not the running one. -/
def signalGroup (number signal : Nat) (alone : Bool) : Step Unit :=
  modify fun kernel : Kernel =>
    let group := (kernel.own?.map fun (entry : ProcessEntry) => entry.group).getD number
    let others := (kernel.table.filter fun entry =>
      entry.group == group && entry.number != kernel.running && entry.number != number).map
        fun entry => entry.number
    let table := (number :: if alone then [] else others).foldl
      (fun (table : Table) number => table.signal number signal) kernel.table
    { kernel with table }

/-- Runs a command that is watched. -/
def watchCommand (starter : Starter) (process : Process) (watch : Watch)
    (command : List (List Char)) : Step Nat := do
  let name := command.headD []
  if !watch.isForeground then
    modify fun kernel : Kernel => kernel.changeOwn fun entry =>
      { entry with group := entry.number }
  match ← named process name command.tail with
  | .error refusal =>
    process.complain (notRun name ++ ": ".toList ++ refusal.complaint.toList)
    return statusOf refusal
  | .ok launch =>
    let number ← startProgram starter ⟨launch, process.descriptors, process.given⟩
    let send (signal : Nat) : Step Unit := do
      if watch.isVerbose then
        process.complain ("sending signal ".toList ++ signalName signal ++ " to command ".toList
          ++ marked name)
      signalGroup number signal watch.isForeground
    let start := (← get).files.now
    awaitUpTo number (if watch.time = 0 then none else some (start + watch.time))
    if !(← get).isAlive number then return (← awaitEnding number).code
    send watch.signal
    let killTime? := watch.killTime.filter (0 < ·)
    let now := (← get).files.now
    awaitUpTo number (killTime?.map (now + ·))
    let isKilled := (← get).isAlive number
    if isKilled then send 9
    let ending ← awaitEnding number
    if isKilled || watch.signal = 9 then return Ending.code (.killed 9)
    return if watch.keepsStatus then ending.status else 124

/-- Runs a program that is sent a signal if it takes too long, and perhaps killed later. -/
def timeout (starter : Starter) (process : Process) : Step Nat :=
  process.withOptions
    { plain := "v", valued := "ks", strict := true
      words := [("kill-after", 'k'), ("signal", 's'), ("verbose", 'v'), ("foreground", '!'),
        ("preserve-status", '=')] } 125
    fun options => do
      let interval (s : List Char) : List Char := "invalid time interval ".toList ++ marked s
      let wrong? := options.options.findSome? fun (letter, value) =>
        if letter = 'k' && (duration? value).isNone then some (interval value)
        else if letter = 's' && (signal? value).isNone then
          some (marked value ++ ": invalid signal".toList)
        else none
      match wrong?, options.operands with
      | some message, _ => misuse process message 125
      | none, [] | none, [_] =>
        advise process
        return 125
      | none, time :: command =>
        match duration? time with
        | none => misuse process (interval time) 125
        | some time =>
          let signal := ((options.value? 's').bind signal?).getD 15
          let killTime? := (options.value? 'k').bind duration?
          watchCommand starter process ⟨signal, time, killTime?, options.has 'v', options.has '!',
            options.has '='⟩ command

end CheckedBuild.Machine.Tools
