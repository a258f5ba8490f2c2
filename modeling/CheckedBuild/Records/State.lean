import CheckedBuild.Machine.Tools.Runners
import CheckedBuild.Records.Syntax
import CheckedBuild.Records.Token
import CheckedBuild.Records.Value

/-!
# The state of a program for records

A running program has variables and tables, the current record with its fields, and the files
and commands that it reads from and writes to. A name that has not been used may become either a
variable or a table.
-/

namespace CheckedBuild.Records

open Machine

/-- The entries of a table, the one used last in front. -/
abbrev Table := List (List Char × Value)

/-- What a name stands for. -/
inductive Cell where
  | value (value : Value)
  | table (number : Nat)
  /-- Not used yet; if it becomes a table, it is the one of this number. -/
  | undecided (number : Nat)

/-- An input that is being read. -/
structure Supply where
  stream : Nat
  /-- What has been read of it but not taken yet. -/
  rest : List Char := []
  /-- Nothing more will come. -/
  isDone : Bool := false

/-- The state. -/
structure State where
  kernel : Kernel
  process : Process
  starter : Starter
  functions : List Function := []
  globals : List (List Char × Cell) := []
  /-- The names of the function that is running. -/
  locals : List (List Char × Cell) := []
  tables : List (Nat × Table) := []
  /-- How many tables there are. -/
  tableCount : Nat := 0
  record : List Char := []
  /-- What separated fields when the record was read. -/
  separator : List Char := [' ']
  /-- The fields of the record, if they have been looked at. -/
  fields : Option (Array (List Char)) := none
  /-- The current input. -/
  input : Option Supply := none
  /-- The number of the next argument. -/
  argument : Nat := 1
  /-- Whether an argument was an input. -/
  hasRead : Bool := false
  readers : List (List Char × List Char) := []
  writers : List (List Char × Nat) := []
  /-- Commands with what they are to read, the last piece first. -/
  commands : List (List Char × List (List Char)) := []
  /-- The ranges of rules that are open, by the numbers of the rules. -/
  ranges : List Nat := []
  status : Nat := 0
  /-- The last random number, and the seed. -/
  random : Nat := 1
  seed : Float := 0

/-- Why statements do not come to their end. -/
inductive Stop where
  | next
  | nextFile
  | exit
  | giveBack (value : Value)
  | leave
  | goOn
  /-- The program cannot go on. -/
  | fault (message : List Char)
  /-- A file cannot be used. -/
  | broken (message : List Char)
  /-- The process has ended. -/
  | ended (ending : Ending)

instance : OfKernel State := ⟨State.kernel, fun state kernel => { state with kernel }⟩

/-- What a program does. -/
abbrev Run := Strand Stop State

/-- What a name stands for, if it has been used. -/
def State.cell? (state : State) (name : List Char) : Option Cell :=
  state.locals.lookup name <|> state.globals.lookup name

/-- Makes a name stand for something. -/
def setCell (name : List Char) (cell : Cell) : Run Unit :=
  modify fun state =>
    let replace (cells : List (List Char × Cell)) : List (List Char × Cell) :=
      cells.map fun entry => if entry.1 = name then (name, cell) else entry
    if state.locals.any (·.1 == name) then { state with locals := replace state.locals }
    else if state.globals.any (·.1 == name) then { state with globals := replace state.globals }
    else { state with globals := state.globals ++ [(name, cell)] }

/-- The value of a plain variable. -/
def State.plain (state : State) (name : String) : Value :=
  match state.globals.lookup name.toList with
  | some (.value value) => value
  | _ => .unset

/-- The format in which numbers become texts. -/
def State.format (state : State) : List Char :=
  (state.plain "CONVFMT").toText "%.6g".toList

/-- A value as a text. -/
def textOf (value : Value) : Run (List Char) := return value.toText (← get).format

/-- The text of a plain variable. -/
def plainText (name : String) : Run (List Char) := do textOf ((← get).plain name)

/-- A new table. -/
def newTable : Run Nat :=
  modifyGet fun state =>
    (state.tableCount, { state with tableCount := state.tableCount + 1 })

/-- The number of the table that a name stands for. -/
def tableOf (name : List Char) : Run Nat := do
  match (← get).cell? name with
  | some (.table number) => return number
  | some (.undecided number) =>
    setCell name (.table number)
    return number
  | none =>
    let number ← newTable
    setCell name (.table number)
    return number
  | some (.value _) =>
    throw (.fault ("type error in use of ".toList ++ name))

/-- What a name is handed over as; one that has not been used may become a table later. -/
def handOver (name : List Char) : Run Cell := do
  match (← get).cell? name with
  | some cell => return cell
  | none =>
    let number ← newTable
    let cell := Cell.undecided number
    setCell name cell
    return cell

/-- The entries of a table. -/
def State.table (state : State) (number : Nat) : Table := (state.tables.lookup number).getD []

/-- Replaces the entries of a table. -/
def setTable (number : Nat) (table : Table) : Run Unit :=
  modify fun state =>
    { state with tables := (number, table) :: state.tables.filter (·.1 != number) }

/-- The value of an element, which exists from then on. -/
def elementOf (number : Nat) (index : List Char) : Run Value := do
  let table := (← get).table number
  let value := (table.lookup index).getD .unset
  setTable number ((index, value) :: table.filter (·.1 != index))
  return value

/-- Sets an element. -/
def setElement (number : Nat) (index : List Char) (value : Value) : Run Unit := do
  let table := (← get).table number
  setTable number ((index, value) :: table.filter (·.1 != index))

/-- A number that scatters texts. -/
def scattered (s : List Char) : UInt32 :=
  s.foldl (fun h c => (h ^^^ UInt32.ofNat c.toNat) * 16777619) 2166136261

/-- The indices of a table in the order in which loops go through them. -/
def indicesOf (table : Table) : List (List Char) :=
  let placed := table.map fun entry => ((scattered entry.1).toNat % 64, entry.1)
  (placed.mergeSort fun a b => a.1 ≤ b.1).map (·.2)

/-! ### The record -/

/-- The fields of the record. -/
def fieldsOf : Run (Array (List Char)) := do
  let state ← get
  match state.fields with
  | some fields => return fields
  | none =>
    let fields := (splitFields state.separator state.record).toArray
    set { state with fields := some fields }
    return fields

/-- Replaces the record. -/
def setRecord (s : List Char) : Run Unit := do
  let separator ← plainText "FS"
  let separator := if (← plainText "RS").isEmpty && separator ≠ [' '] then
      (if separator.length = 1 then '[' :: separator ++ [']'] else separator) ++ "|\n".toList
    else separator
  modify fun state => { state with record := s, fields := none, separator }

/-- Replaces the fields, and makes the record of them. -/
def setFields (fields : Array (List Char)) : Run Unit := do
  let joint ← plainText "OFS"
  modify fun state =>
    { state with fields := some fields, record := Text.joinWith joint fields.toList }

/-- The value of a field; the record is number zero. -/
def fieldValue (n : Nat) : Run Value := do
  if n = 0 then return .ofInput (← get).record
  match (← fieldsOf)[n - 1]? with
  | some s => return .ofInput s
  | none => return .unset

/-- Sets a field. -/
def setField (n : Nat) (s : List Char) : Run Unit := do
  if n = 0 then setRecord s
  else
    let fields ← fieldsOf
    let fields := fields ++ Array.replicate (n - fields.size) []
    setFields (fields.setIfInBounds (n - 1) s)

/-- Sets the number of fields. -/
def setFieldCount (n : Nat) : Run Unit := do
  let fields ← fieldsOf
  setFields (fields.extract 0 n ++ Array.replicate (n - fields.size) [])

/-! ### Input and output -/

/-- A record at the beginning of a text, and what comes after it. -/
def takeRecord (separator s : List Char) : Option (List Char × List Char) :=
  match separator with
  | [] =>
    let s := s.dropWhile (· = '\n')
    if s.isEmpty then none
    else
      let rec paragraph : List Char → List Char × List Char
        | '\n' :: '\n' :: rest => ([], rest.dropWhile (· = '\n'))
        | ['\n'] | [] => ([], [])
        | c :: rest =>
          let (record, rest) := paragraph rest
          (c :: record, rest)
      some (paragraph s)
  | [c] =>
    if s.isEmpty then none
    else some (s.takeWhile (· ≠ c), (s.dropWhile (· ≠ c)).drop 1)
  | separator =>
    if s.isEmpty then none
    else
      let text := s.toArray
      match Text.Regular.search (expressionOf separator) false text 0 with
      | some (first, last, _) =>
        if first = last then some (s, [])
        else some ((text.extract 0 first).toList, (text.extract last text.size).toList)
      | none => some (s, [])

/-- Runs a step of the process. -/
def step {α : Type} (run : Process → Step α) : Run α := do
  let process := (← get).process
  Strand.enlarge .ended (run process)

/-- The complaint about a file that cannot be read. -/
def notRead (refusal : Refusal) : List Char :=
  ("read error (" ++ refusal.complaint ++ ")").toList

/-- All that is left to be read in a stream. -/
def readFrom (number : Nat) : Run (List Char) := do
  match ← step fun _ => Process.readRefusal? number with
  | some refusal => throw (.broken (notRead refusal))
  | none => step fun _ => Process.readAll number

/-- Hands over what was printed. -/
def flush : Run Unit := step Process.flush

/-- Runs a command of the shell with its input, if that is given. -/
def runShellCommand (command : List Char) (input : Option (List Char)) (output : Option Nat) :
    Run Nat := do
  let starter := (← get).starter
  step fun process => do
    let descriptors ← match input with
      | some s =>
        let number ← modifyGet fun kernel : Kernel =>
          kernel.openStream (.source (bytesOfRaw s))
        pure ((0, number) :: process.descriptors.filter (·.1 != 0))
      | none => pure process.descriptors
    let descriptors := match output with
      | some number => (1, number) :: descriptors.filter (·.1 != 1)
      | none => descriptors
    Tools.runCommand starter { process with descriptors } id
      ["/bin/sh".toList, "-c".toList, command]

/-- What a command of the shell prints. -/
def outputOf (command : List Char) : Run (List Char) := do
  flush
  let number ← modifyGet fun state =>
    let (number, kernel) := state.kernel.openStream (.sink [])
    (number, { state with kernel })
  let _ ← runShellCommand command none (some number)
  return rawOfBytes ((← get).kernel.written number)

/-- The complaint about a file that cannot be opened. -/
def notOpened (name : List Char) (purpose : String) (refusal : Refusal) : List Char :=
  "cannot open \"".toList ++ name ++ ("\"" ++ purpose ++ " (").toList
    ++ refusal.complaint.toList ++ [')']

/-- Prints a text to standard output. -/
def say (s : List Char) : Run Unit := step fun process => process.print s

/-- Prints a text to a file, which is opened at the first time. -/
def sayTo (name : List Char) (keeps : Bool) (s : List Char) : Run Unit := do
  if name = ['-'] || name = "/dev/stdout".toList then return ← say s
  let state ← get
  let number ← match state.writers.lookup name with
    | some number => pure number
    | none =>
      let access : Kernel.Access := if keeps then .append else .write false
      match ← step fun process => process.createFile access name with
      | .ok number =>
        modify fun state => { state with writers := (name, number) :: state.writers }
        pure number
      | .error refusal => throw (.broken (notOpened name " for output" refusal))
  let _ ← step fun _ => putAll number (bytesOfRaw s)

/-- Keeps a text for a command, which is run when it is closed. -/
def sayToCommand (command s : List Char) : Run Unit := do
  if (← get).commands.any (·.1 == command) then
    modify fun state =>
      { state with
        commands := state.commands.map fun entry =>
          if entry.1 = command then (command, s :: entry.2) else entry }
  else
    flush
    modify fun state => { state with commands := state.commands ++ [(command, [s])] }

/-- Runs a command that has got all that it is to read. -/
def closeCommand (command : List Char) : Run Nat := do
  match (← get).commands.lookup command with
  | some pieces =>
    modify fun state => { state with commands := state.commands.filter (·.1 != command) }
    runShellCommand command (some pieces.reverse.flatten) none
  | none => return 0

/-- Sets a plain variable. -/
def setPlain (name : String) (value : Value) : Run Unit := setCell name.toList (.value value)

/-- Whether a text can be the name of a variable. -/
def isName (s : List Char) : Bool :=
  !(s.head?.map Char.isDigit).getD true && s.all fun c => c.isAlphanum || c = '_'

/-- Sets a variable from outside of the program, where its name may mean something else. -/
def preset (name : List Char) (value : Value) : Run Unit := do
  let state ← get
  let isTable : Bool := match state.cell? name with
    | some (.table _) => true
    | _ => false
  let word := String.ofList name
  if isTable || keywords.contains word || builtins.contains word
      || state.functions.any (·.name == name) then
    throw (.fault ("run time error: cannot command line assign to ".toList ++ name
      ++ "\n\ttype clash or keyword".toList))
  setCell name (.value value)

/-- Opens the next input that the arguments name; the arguments that are assignments are carried
out. -/
def openNext (fuel : Nat) : Run Bool := do
  match fuel with
  | 0 => return false
  | fuel + 1 =>
    let state ← get
    let count := truncated 0 1000000 (state.plain "ARGC").toNumber
    let start (name : List Char) (number : Nat) : Run Bool := do
      setPlain "FILENAME" (.text name)
      setPlain "FNR" (.number 0)
      modify fun state => { state with input := some { stream := number }, hasRead := true }
      return true
    let standard : Run Bool := do
      match state.process.descriptors.lookup 0 with
      | some number => start ['-'] number
      | none => return false
    if count ≤ state.argument then
      if state.hasRead then return false
      standard
    else
      set { state with argument := state.argument + 1 }
      let table := state.table (← tableOf "ARGV".toList)
      let argument := ((table.lookup (decimal state.argument)).getD .unset).toText state.format
      let name := argument.takeWhile (· ≠ '=')
      let isSetting := argument.contains '=' && isName name
      if argument.isEmpty then openNext fuel
      else if isSetting then
        let value := argument.drop (name.length + 1)
        preset name (.ofInput (Format.unescape value).1)
        openNext fuel
      else if argument = ['-'] then standard
      else
        match ← step fun process => process.openFile argument with
        | .ok number => start argument number
        | .error refusal => throw (.broken (notOpened argument "" refusal))

/-- How much is read at once. -/
def readSize : Nat := 4096

/-- Reads on until there is a whole record of an input; only single characters show where one ends
before all has been read. `before` are the pieces so far, the last one first. -/
def fill (fuel : Nat) (separator : List Char) (supply : Supply) (before : List (List Char)) :
    Run Unit := do
  let store (supply : Supply) (pieces : List (List Char)) : Run Unit :=
    modify fun state =>
      { state with input := some { supply with rest := pieces.reverse.flatten } }
  match fuel with
  | 0 => store supply before
  | fuel + 1 =>
    if let some refusal ← step fun _ => Process.readRefusal? supply.stream then
      throw (.broken (notRead refusal))
    let piece ← step fun _ => do return rawOfBytes (← takeUpTo supply.stream readSize)
    let isWhole := match separator with
      | [c] => piece.contains c
      | _ => false
    if piece.isEmpty then store { supply with isDone := true } before
    else if isWhole then store supply (piece :: before)
    else fill fuel separator supply (piece :: before)

/-- Reads the next record of the input, if there is one. -/
def nextRecord (fuel : Nat) : Run (Option (List Char)) := do
  match fuel with
  | 0 => return none
  | fuel + 1 =>
    let separator ← plainText "RS"
    if let some supply := (← get).input then
      let isWhole := match separator with
        | [c] => supply.rest.contains c
        | _ => false
      if !supply.isDone && !isWhole then fill pieceLimit separator supply [supply.rest]
    match (← get).input.bind fun supply => takeRecord separator supply.rest with
    | some (record, rest) =>
      modify fun state =>
        { state with input := state.input.map fun supply => { supply with rest } }
      let state ← get
      setPlain "NR" (.number ((state.plain "NR").toNumber + 1))
      setPlain "FNR" (.number ((state.plain "FNR").toNumber + 1))
      return some record
    | none =>
      if ← openNext 100000 then nextRecord fuel else return none

end CheckedBuild.Records
