import CheckedBuild.Machine.Course
import CheckedBuild.Machine.Launch
import CheckedBuild.Machine.Quotation

/-!
# Running tools

A tool is a step on the kernel that knows its name, its arguments, its descriptors and its
variables, and ends with a status.
-/

namespace CheckedBuild.Machine

/-- A process that runs a tool. -/
structure Process where
  /-- The name that it was called by. -/
  name : List Char
  arguments : List (List Char)
  descriptors : Descriptors
  given : List (List Char) := []

/-- A program with all that it is started with. -/
structure Start where
  launch : Launch
  descriptors : Descriptors
  given : List (List Char)

/-- What a program does that has been started. -/
abbrev Starter := Start → Kernel → Course

/-! ### Waiting -/

/-- Waits until something can be read from a stream, or nothing more will come. -/
def awaitInput (number : Nat) : Step Unit := do
  if (← get).isDry number then
    Strand.pause { isOver := fun kernel => !kernel.isDry number }

/-- Waits until somebody has opened the other end of a named pipe. -/
def awaitPartner (number : Nat) : Step Unit := do
  if (← get).isAlone number then
    Strand.pause { isOver := fun kernel => !kernel.isAlone number }

/-- Lets others run if they have waited long enough. -/
def yieldTurn : Step Unit := do
  if (← get).isTurnOver then Strand.pause .turn

/-- Waits until a process that the running one has started has ended. -/
def awaitEnding (number : Nat) : Step Ending := do
  let ending? (kernel : Kernel) : Option Ending :=
    (kernel.table.entry? number).bind fun (entry : ProcessEntry) => entry.ending
  Strand.pause { isOver := fun kernel => !kernel.isAlive number }
  modifyGet fun kernel : Kernel =>
    ((ending? kernel).getD (.exited 0),
      { kernel with table := kernel.table.filter fun entry => entry.number != number })

/-- Starts a program in a process of its own. The result is its number. -/
def startProgram (starter : Starter) (start : Start) : Step Nat := do
  let number ← modifyGet fun kernel : Kernel => kernel.addProcess start.descriptors.streams
  Strand.fork number (starter start)
  return number

/-- Becomes another program. -/
def becomeProgram {α : Type} (starter : Starter) (start : Start) : Step α := do
  modify fun kernel : Kernel => kernel.changeOwn fun entry =>
    { entry with streams := start.descriptors.streams, caught := [] }
  Strand.pause .turn
  let ending ← fun kernel => (starter start kernel).outcome
  throw ending

/-! ### Reading -/

/-- Reads at most so many bytes of a stream, as soon as there are any. -/
def takeUpTo (number count : Nat) : Step Bytes := do
  awaitInput number
  modifyGet fun kernel : Kernel => kernel.readUpTo number count

/-- Reads what there is of a stream, as soon as there is anything. Nothing is the end. -/
def takeSome (number : Nat) : Step Bytes := do
  awaitInput number
  modifyGet fun kernel : Kernel => kernel.readRest number

/-- Reads so many bytes of a stream, or all that is left if that is less; `before` are the pieces so
far, the last one first. -/
def takeFully (fuel number count : Nat) (before : List Bytes) : Step Bytes := do
  match fuel with
  | 0 => return before.reverse.flatten
  | fuel + 1 =>
    if count = 0 then return before.reverse.flatten
    let bytes ← takeUpTo number count
    if bytes.isEmpty then return before.reverse.flatten
    takeFully fuel number (count - bytes.length) (bytes :: before)

/-- How many pieces a stream comes in at most. -/
def pieceLimit : Nat := 1000000000

/-- Reads what is left in a stream; `before` are the pieces so far, the last one first. -/
def takeAll (fuel number : Nat) (before : List Bytes) : Step Bytes := do
  match fuel with
  | 0 => return before.reverse.flatten
  | fuel + 1 =>
    let bytes ← takeSome number
    if bytes.isEmpty || (← get).isEndless number then return (bytes :: before).reverse.flatten
    takeAll fuel number (bytes :: before)

/-- Reads up to a line feed; `before` are the pieces so far, the last one first. The result tells
whether there was one. -/
def takeLine (fuel number : Nat) (before : List Bytes) : Step (Bytes × Bool) := do
  match fuel with
  | 0 => return (before.reverse.flatten, false)
  | fuel + 1 =>
    awaitInput number
    let (line, isComplete) ← modifyGet fun kernel : Kernel => kernel.readLine number
    if isComplete || line.isEmpty then return ((line :: before).reverse.flatten, isComplete)
    takeLine fuel number (line :: before)

/-! ### Writing -/

/-- Writes bytes to a stream, and waits for room in a pipe. The result tells why that cannot be
done; nobody reading the pipe kills the process unless it takes no notice of that. -/
def put (fuel number : Nat) (bytes : Bytes) : Step (Option Refusal) := do
  match fuel with
  | 0 => return none
  | fuel + 1 =>
    if bytes.isEmpty then return none
    let kernel ← get
    match kernel.writeRefusal? number, kernel.roomOf number with
    | some refusal, _ => return some refusal
    | none, none =>
      set (kernel.write number bytes)
      return none
    | none, some room =>
      if kernel.isBroken number then
        if kernel.own?.any fun entry => entry.ignored.contains 13 then return some .brokenPipe
        throw (.killed 13)
      else if room = 0 then
        Strand.pause
          { isOver := fun kernel => kernel.roomOf number != some 0 || kernel.isBroken number }
        put fuel number bytes
      else
        set (kernel.write number (bytes.take room))
        put fuel number (bytes.drop room)

/-- Writes bytes to a stream that takes them all in the end. -/
def putAll (number : Nat) (bytes : Bytes) : Step (Option Refusal) :=
  put (2 * bytes.length + 2) number bytes

/-- How much a process writes at once. -/
def bufferSize : Nat := 4096

namespace Process

/-- Writes to standard output; that it cannot be written is put on record. -/
def say (process : Process) (s : List Char) : Step Unit := do
  if s.isEmpty then return
  let refusal? ← match process.descriptors.lookup 1 with
    | some number => putAll number (bytesOfRaw s)
    | none => pure (some .badDescriptor)
  if refusal?.isSome then
    modify fun kernel : Kernel => { kernel with failure := kernel.failure <|> refusal? }

/-- Writes what has been kept to standard output. -/
def flush (process : Process) : Step Unit := do
  let pieces := (← get).unwritten
  if pieces.isEmpty then return
  modify fun kernel : Kernel => { kernel with unwritten := [], unwrittenSize := 0 }
  process.say pieces.reverse.flatten

/-- Keeps a text for standard output until there is enough to be written. -/
def print (process : Process) (s : List Char) : Step Unit := do
  if s.isEmpty then return
  modify fun kernel : Kernel =>
    { kernel with
      unwritten := s :: kernel.unwritten, unwrittenSize := kernel.unwrittenSize + s.length }
  if bufferSize ≤ (← get).unwrittenSize then process.flush

/-- Writes to the error stream, if it can be written. -/
def warnPlainly (process : Process) (s : List Char) : Step Unit := do
  match process.descriptors.lookup 2 with
  | some number =>
    let _ ← putAll number (bytesOfRaw s)
  | none => return

/-- Writes a line to the error stream. -/
def warn (process : Process) (s : List Char) : Step Unit :=
  process.warnPlainly (s ++ ['\n'])

/-- Writes a line with the name of the tool to the error stream. -/
def complain (process : Process) (s : List Char) : Step Unit :=
  process.warn (process.name ++ ": ".toList ++ s)

/-- The name of the tool without directories. -/
def shortName (process : Process) : List Char :=
  (process.name.reverse.takeWhile (· ≠ '/')).reverse

/-- Reads what is left in a stream. -/
def readAll (number : Nat) : Step (List Char) := do
  return rawOfBytes (← takeAll pieceLimit number [])

/-- Runs a step on the pieces of a stream as they come. -/
def onPieces {α : Type} (fuel number : Nat) (start : α) (step : α → List Char → Step α) :
    Step α := do
  match fuel with
  | 0 => return start
  | fuel + 1 =>
    yieldTurn
    let bytes ← takeSome number
    if bytes.isEmpty then return start
    let value ← step start (rawOfBytes bytes)
    onPieces fuel number value step

/-- A text up to the last occurrence of an ending, and what stands behind that. -/
def splitAfterLast (ending : Char) (s : List Char) : List Char × List Char :=
  let tail := (s.reverse.takeWhile (· ≠ ending)).reverse
  (s.take (s.length - tail.length), tail)

/-- Runs a step on the lines of a stream as they come, several at once. Only the last one may lack
its ending; `before` is what has come of the next one, the last piece first. -/
def onLines {α : Type} (fuel number : Nat) (ending : Char) (before : List (List Char)) (start : α)
    (step : α → List Char → Step α) : Step α := do
  match fuel with
  | 0 => return start
  | fuel + 1 =>
    yieldTurn
    let bytes ← takeSome number
    if bytes.isEmpty then
      let rest := before.reverse.flatten
      if rest.isEmpty then return start else step start rest
    else
      let (whole, tail) := splitAfterLast ending (rawOfBytes bytes)
      if whole.isEmpty then onLines fuel number ending (tail :: before) start step
      else
        let value ← step start ((whole :: before).reverse.flatten)
        onLines fuel number ending (if tail.isEmpty then [] else [tail]) value step

/-- How much time it takes to handle a piece of a stream. -/
def pieceTime : Nat := 100000

/-- Copies what is left in a stream to standard output as it comes. -/
def copy (process : Process) (number : Nat) : Step Unit :=
  onPieces pieceLimit number () fun _ s => do
    modify fun kernel : Kernel => kernel.spend pieceTime
    process.say s

/-- Reads what is left of standard input. -/
def readInput (process : Process) : Step (List Char) :=
  match process.descriptors.lookup 0 with
  | some number => readAll number
  | none => return []

/-- Why nothing can be read from a stream. -/
def readRefusal? (number : Nat) : Step (Option Refusal) := do
  return (← get).readRefusal? number

/-- The stream of standard input. -/
def inputStream (process : Process) : Except Refusal Nat :=
  match process.descriptors.lookup 0 with
  | some number => .ok number
  | none => .error .badDescriptor

/-- Takes what opening a stream comes to. -/
def opened (outcome : Kernel → Except Refusal (Nat × Kernel)) : Step (Except Refusal Nat) := do
  match outcome (← get) with
  | .ok (number, kernel) =>
    set kernel
    awaitPartner number
    return .ok number
  | .error refusal => return .error refusal

/-- Opens a file for reading. -/
def openFile (process : Process) (name : List Char) : Step (Except Refusal Nat) :=
  opened fun kernel => kernel.openForReading process.descriptors (textOfRaw name)

/-- Opens a file for writing. -/
def createFile (process : Process) (access : Kernel.Access) (name : List Char) :
    Step (Except Refusal Nat) :=
  opened fun kernel => kernel.openForWriting process.descriptors access (textOfRaw name)

/-- Opens what a name stands for, which may be standard input, if it can be read. -/
def openInput (process : Process) (name : Option (List Char)) : Step (Except Refusal Nat) := do
  let opened ← match name with
    | none | some ['-'] => pure process.inputStream
    | some path => process.openFile path
  match opened with
  | .ok number =>
    match ← readRefusal? number with
    | some refusal => return .error refusal
    | none => return .ok number
  | .error refusal => return .error refusal

/-- Runs a step on each of the named inputs, or on standard input if none is named; the status is
1 if one of them cannot be read, after a complaint that `blame` words. -/
def onInputs (process : Process) (names : List (List Char))
    (blame : List Char → Refusal → List Char) (step : Nat → Option (List Char) → Step Unit) :
    Step Nat := do
  let names : List (Option (List Char)) := if names.isEmpty then [none] else names.map some
  names.foldlM (fun status name => do
    match ← process.openInput name with
    | .ok number =>
      step number name
      return status
    | .error refusal =>
      process.warn (blame (name.getD ['-']) refusal)
      return 1) 0

/-- The value of a variable that the process was given. -/
def givenValue (process : Process) (name : List Char) : Option (List Char) :=
  process.given.findSome? fun s =>
    if (name ++ ['=']).isPrefixOf s then some (s.drop (name.length + 1)) else none

/-- Whether the variables of a process ask for characters of several bytes. -/
def isWide (process : Process) : Bool :=
  let set := ["LC_ALL", "LC_CTYPE", "LANG"].filterMap fun name =>
    (process.givenValue name.toList).filter (· ≠ [])
  match set.head? with
  | some ('C' :: '.' :: letters) =>
    ((letters.filter Char.isAlphanum).map Char.toLower) = "utf8".toList
  | _ => false

/-- A complaint about an input: the name of the tool, that of the input and the cause. -/
def blamePlainly (process : Process) (name : List Char) (refusal : Refusal) : List Char :=
  process.name ++ ": ".toList ++ name ++ ": ".toList ++ refusal.complaint.toList

/-- The usual complaint about an input, whose name is quoted if it needs that. -/
def blame (process : Process) (name : List Char) (refusal : Refusal) : List Char :=
  process.blamePlainly (Quotation.ifNeeded process.isWide [':'] name) refusal

/-- An input that has been read. -/
structure Input where
  /-- Its name, if it has been given one. -/
  name : Option (List Char)
  text : List Char
  isFile : Bool

/-- Reads the named inputs, or standard input if none is named, after the complaints about those
that cannot be read. The second result is the status. -/
def inputs (process : Process) (names : List (List Char))
    (blame : List Char → Refusal → List Char) : Step (List Input × Nat) := do
  let names : List (Option (List Char)) := if names.isEmpty then [none] else names.map some
  names.foldlM (fun (found, status) name => do
    match ← process.openInput name with
    | .ok number =>
      let isFile := (← get).isFile number
      let text ← readAll number
      return (found ++ [⟨name, text, isFile⟩], status)
    | .error refusal =>
      process.warn (blame (name.getD ['-']) refusal)
      return (found, 1)) (([] : List Input), 0)

/-- Carries a value through the pieces of the named inputs, or through those of standard input if
none is named. The second result is the status. -/
def foldInputs {α : Type} (process : Process) (names : List (List Char)) (start : α)
    (step : α → List Char → Step α) : Step (α × Nat) := do
  let names : List (Option (List Char)) := if names.isEmpty then [none] else names.map some
  names.foldlM (fun (value, status) name => do
    match ← process.openInput name with
    | .ok number =>
      let value ← onPieces pieceLimit number value step
      return (value, status)
    | .error refusal =>
      process.warn (process.blame (name.getD ['-']) refusal)
      return (value, 1)) (start, 0)

/-- Carries a value through the lines of the named inputs, or through those of standard input if
none is named. The second result is the status. -/
def foldLines {α : Type} (process : Process) (names : List (List Char)) (ending : Char)
    (start : α) (step : α → List Char → Step α) : Step (α × Nat) := do
  let names : List (Option (List Char)) := if names.isEmpty then [none] else names.map some
  names.foldlM (fun (value, status) name => do
    match ← process.openInput name with
    | .ok number =>
      let value ← onLines pieceLimit number ending [] value step
      return (value, status)
    | .error refusal =>
      process.warn (process.blame (name.getD ['-']) refusal)
      return (value, 1)) (start, 0)

/-- Writes what a function makes of the lines of the named inputs. The result is the status. -/
def mapLines (process : Process) (names : List (List Char)) (ending : Char)
    (f : List Char → List Char) : Step Nat := do
  let (_, status) ← process.foldLines names ending () fun _ s => process.print (f s)
  return status

/-- All of the named inputs one after the other, and the status. -/
def gather (process : Process) (names : List (List Char)) : Step (List Char × Nat) := do
  let (found, status) ← process.inputs names process.blame
  return (found.flatMap (·.text), status)

end Process

end CheckedBuild.Machine
