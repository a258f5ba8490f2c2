import CheckedBuild.Machine.Tools.Blocks

/-!
# Beginnings and ends of inputs

These tools copy so many lines or bytes from the beginning or from the end of their inputs, or all
but so many.
-/

namespace CheckedBuild.Machine.Tools

open Process

/-- The line that names an input among several ones. -/
def heading (isFirst : Bool) (name : List Char) : List Char :=
  let shown := if name = ['-'] then "standard input".toList else name
  (if isFirst then [] else ['\n']) ++ "==> ".toList ++ shown ++ " <==\n".toList

/-- The complaint about an input that cannot be opened or read. -/
def notReadable (name : List Char) (refusal : Refusal) : List Char :=
  let name := marked (if name = ['-'] then "standard input".toList else name)
  let reason := ": ".toList ++ refusal.complaint.toList
  if refusal = .isDirectory then "error reading ".toList ++ name ++ reason
  else "cannot open ".toList ++ name ++ " for reading".toList ++ reason

/-- The first argument of a beginning in terms of other options, if it is a number after a dash:
units and other options may follow the digits. A letter that means nothing there is a fault. -/
def oldBeginning (arguments : List (List Char)) : Except Char (List (List Char)) :=
  match arguments with
  | ('-' :: digit :: more) :: rest =>
    let digits := (digit :: more).takeWhile Char.isDigit
    let letters := (digit :: more).drop digits.length
    if digits.isEmpty then .ok arguments
    else
      match letters.find? fun c => !"bkmclqvz".toList.contains c with
      | some c => .error c
      | none =>
        let amount := letters.foldl (fun ((byBytes, unit) : Bool × List Char) c =>
          match c with
          | 'b' => (true, ['b'])
          | 'k' => (true, ['K'])
          | 'm' => (true, ['M'])
          | 'c' => (true, [])
          | 'l' => (false, unit)
          | _ => (byBytes, unit)) (false, [])
        let option := if amount.1 then 'c' else 'n'
        let others := (letters.filter fun c => "qvz".toList.contains c).map fun c => ['-', c]
        .ok ((['-', option] ++ digits ++ amount.2) :: others ++ rest)
  | _ => .ok arguments

/-- The first argument of an end in terms of other options, if it is an amount after a plus sign
or a dash. There may be only one operand then. -/
def oldEnd (arguments : List (List Char)) : List (List Char) :=
  let isOperand (s : List Char) : Bool := s.head? ≠ some '-' || s = ['-']
  let isAlone := match arguments with
    | [_] => true
    | [_, operand] => isOperand operand || operand = "--".toList
    | [_, dashes, _] => dashes = "--".toList
    | _ => false
  match arguments with
  | (sign :: more) :: rest =>
    let digits := more.takeWhile Char.isDigit
    let letters := more.drop digits.length
    let unit := letters.head?.filter fun c => c = 'b' || c = 'c' || c = 'l'
    let after := if unit.isSome then letters.drop 1 else letters
    let isAmount := (sign = '+' || (sign = '-' && more ≠ [] && more ≠ ['c']))
      && (after.isEmpty || after = ['f'])
    if !isAlone || !isAmount then arguments
    else
      let count := (if digits.isEmpty then "10".toList else digits)
        ++ (if unit = some 'b' then ['b'] else [])
      let option := if unit = some 'b' || unit = some 'c' then 'c' else 'n'
      let sign := if sign = '+' then ['+'] else []
      (['-', option] ++ sign ++ count) :: (if after.isEmpty then [] else [['-', 'f']]) ++ rest
  | _ => arguments

/-- What the options of one of these tools ask for. -/
structure Extent where
  byBytes : Bool
  /-- The sign in front of the amount. -/
  sign : Option Char
  count : Nat
  ending : Char
  quiet : Bool
  verbose : Bool

/-- The options of both tools. -/
def endsTable (more : String) (words : List (String × Char)) : OptionTable :=
  { plain := "qvz" ++ more, valued := "nc"
    words := [("bytes", 'c'), ("lines", 'n'), ("quiet", 'q'), ("silent", 'q'), ("verbose", 'v'),
      ("zero-terminated", 'z')] ++ words }

/-- What options ask for, or what is wrong with them. -/
def extentOf (options : Arguments) : Except (List Char) Extent :=
  let (letter, value) := (options.lastOf? "cn").getD ('n', "10".toList)
  let sign := value.head?.filter fun c => c = '-' || c = '+'
  let amount := if sign.isSome then value.drop 1 else value
  let isLarge := (byteCount? amount).any fun count => decide (Nat.pow 2 64 ≤ count)
  match (byteCount? amount).filter fun _ => !isLarge with
  | none =>
    let things := if letter = 'c' then "bytes" else "lines"
    let reason := if isLarge then ": Value too large for defined data type" else ""
    .error (("invalid number of " ++ things ++ ": ").toList ++ marked value ++ reason.toList)
  | some count =>
    let naming := (options.lastOf? "qv").map (·.1)
    .ok ⟨letter = 'c', sign, count, if options.has 'z' then '\x00' else '\n',
      naming = some 'q', naming = some 'v'⟩

/-- The lines of a text with what ends them. -/
def linesEndedBy (ending : Char) (s : List Char) : List (List Char) :=
  let pieces := Text.pieces ending s
  let whole := pieces.dropLast.map (· ++ [ending])
  match pieces.getLast? with
  | none | some [] => whole
  | some last => whole ++ [last]

/-- How much is read at once. -/
def blockSize : Nat := 8192

/-- Copies so many bytes of an input. -/
def copyBytes (process : Process) (fuel number count : Nat) : Step Unit := do
  match fuel with
  | 0 => return
  | fuel + 1 =>
    if count = 0 then return
    let bytes ← takeUpTo number (min blockSize count)
    if bytes.isEmpty then return
    process.print (rawOfBytes bytes)
    copyBytes process fuel number (count - bytes.length)

/-- The first lines of some bytes, at most so many, how many are missing, and the other bytes. -/
def firstLines (ending : UInt8) (count : Nat) (bytes : Bytes) : Bytes × Nat × Bytes :=
  match bytes with
  | [] => ([], count, [])
  | byte :: rest =>
    if count = 0 then ([], 0, bytes)
    else
      let (lines, missing, others) :=
        firstLines ending (if byte = ending then count - 1 else count) rest
      (byte :: lines, missing, others)

/-- Copies so many lines of an input. What has been read too early goes back if that is possible. -/
def copyLines (process : Process) (ending : Char) (fuel number count : Nat) : Step Unit := do
  match fuel with
  | 0 => return
  | fuel + 1 =>
    if count = 0 then return
    let bytes ← takeUpTo number blockSize
    if bytes.isEmpty then return
    let (lines, missing, others) := firstLines (UInt8.ofNat ending.toNat) count bytes
    process.print (rawOfBytes lines)
    if missing = 0 then
      if (← get).isFile number then modify fun kernel : Kernel => kernel.unread number others
    else copyLines process ending fuel number missing

/-- Copies the beginning of an input. What is not copied can still be read: all of it from a file,
and from a pipe what does not belong to the last block that was taken. -/
def copyBeginning (process : Process) (extent : Extent) (number : Nat) : Step Unit := do
  if extent.sign ≠ some '-' && extent.byBytes then
    copyBytes process pieceLimit number extent.count
  else if extent.sign ≠ some '-' then
    copyLines process extent.ending pieceLimit number extent.count
  else
    let s ← readAll number
    if extent.byBytes then process.print (s.take (s.length - extent.count))
    else
      let lines := linesEndedBy extent.ending s
      process.print (lines.take (lines.length - extent.count)).flatten

/-- Copies the end of an input. -/
def copyEnd (process : Process) (extent : Extent) (number : Nat) : Step Unit := do
  let s ← readAll number
  let fromStart := extent.sign = some '+'
  let first (length : Nat) : Nat :=
    if fromStart then extent.count - 1 else length - extent.count
  if extent.byBytes then process.print (s.drop (first s.length))
  else
    let lines := linesEndedBy extent.ending s
    process.print (lines.drop (first lines.length)).flatten

/-- Runs a step on the inputs, each of them after a heading if there are several ones. -/
def onHeadedInputs (process : Process) (extent : Extent) (names : List (List Char))
    (step : Nat → Step Unit) : Step Nat := do
  let shows := (1 < names.length || extent.verbose) && !extent.quiet
  let names := if names.isEmpty then [['-']] else names
  let (status, _) ← names.foldlM (fun (status, isFirst) name => do
    let title : Step Unit := if shows then process.print (heading isFirst name) else pure ()
    match ← process.openInput (some name) with
    | .ok number =>
      title
      step number
      return (status, false)
    | .error refusal =>
      let isOpen := refusal = .isDirectory
      if isOpen then title
      process.complain (notReadable name refusal)
      return (1, isFirst && !isOpen)) (0, true)
  return status

/-- Copies what stands at the beginning of inputs. -/
def head (process : Process) : Step Nat := do
  match oldBeginning process.arguments with
  | .error c => misuse process ("invalid trailing option -- ".toList ++ [c]) 1
  | .ok arguments =>
    let process := { process with arguments := arguments }
    process.withOptions (endsTable "" []) 1 fun options => do
      match extentOf options with
      | .error message =>
        process.complain message
        return 1
      | .ok extent =>
        onHeadedInputs process extent options.operands (copyBeginning process extent)

/-- Copies what comes to be in a file behind a place; the result is the next place. -/
def copyGrowth (process : Process) (name : List Char) (place : Nat) : Step Nat := do
  match (← get).files.read (textOfRaw name) with
  | .ok bytes =>
    process.say (rawOfBytes (bytes.drop place))
    return bytes.length
  | .error _ => return place

/-- Copies what files grow by, from some places on. -/
def follow (process : Process) (fuel : Nat) (places : List (List Char × Nat)) : Step Unit := do
  match fuel with
  | 0 => return
  | fuel + 1 =>
    let sizeOf (kernel : Kernel) (name : List Char) : Nat :=
      match kernel.files.size (textOfRaw name) with
      | .ok size => size
      | .error _ => 0
    Strand.pause
      { isOver := fun kernel => places.any fun (name, place) => sizeOf kernel name != place }
    let places ← places.mapM fun (name, place) => do
      let place := if sizeOf (← get) name < place then 0 else place
      return (name, ← copyGrowth process name place)
    follow process fuel places

/-- Copies what files grow by, from their ends on. -/
def followAll (process : Process) (fuel : Nat) (names : List (List Char)) : Step Unit := do
  let files := (← get).files
  follow process fuel (names.map fun name =>
    (name, match files.size (textOfRaw name) with
      | .ok size => size
      | .error _ => 0))

/-- Copies what stands at the end of inputs. -/
def tail (process : Process) : Step Nat :=
  let process := { process with arguments := oldEnd process.arguments }
  process.withOptions
    (endsTable "fF0123456789" [("follow", 'f'), ("retry", 'α'), ("sleep-interval", 's'), ("pid", 'β')]) 1
    fun options => do
      if let some (digit, _) := options.options.find? fun o => o.1.isDigit then
        process.complain ("option used in invalid context -- ".toList ++ [digit])
        return 1
      match extentOf options with
      | .error message =>
        process.complain message
        return 1
      | .ok extent =>
        let status ← onHeadedInputs process extent options.operands (copyEnd process extent)
        process.flush
        if (options.has 'f' || options.has 'F') && !options.operands.isEmpty && status = 0 then
          followAll process pieceLimit options.operands
        return status

end CheckedBuild.Machine.Tools
