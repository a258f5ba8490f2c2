import CheckedBuild.Machine.Tools.Columns
import CheckedBuild.Machine.Tools.Directives

/-!
# Tools that make texts

These tools print texts made of their arguments, or copy standard input to files as well.
-/

namespace CheckedBuild.Machine.Tools

open Process

/-- Copies standard input to standard output and to files. -/
def tee (process : Process) : Step Nat :=
  process.withOptions
    { plain := "aip", words := [("append", 'a'), ("ignore-interrupts", 'i')] } 1
    fun options => do
      let access : Kernel.Access := if options.has 'a' then .append else .write false
      let (streams, status) ← options.operands.foldlM (fun (streams, status) name => do
        match ← process.createFile access name with
        | .ok number => return (streams ++ [(name, number)], status)
        | .error refusal =>
          process.warn (process.blame name refusal)
          return (streams, 1)) (([] : List (List Char × Nat)), 0)
      match process.descriptors.lookup 0 with
      | none => return status
      | some input =>
        let (_, status) ← onPieces pieceLimit input (streams, status) fun (streams, status) s => do
          process.say s
          -- what refuses a piece gets no other one
          streams.foldlM (fun (kept, status) (name, number) => do
            match ← putAll number (bytesOfRaw s) with
            | some refusal =>
              process.warn (process.blame name refusal)
              return (kept, 1)
            | none => return (kept ++ [(name, number)], status))
            (([] : List (List Char × Nat)), status)
        return status

/-- Prints its arguments; escapes have a meaning only if that is asked for. -/
def echo (process : Process) : Step Nat := do
  let isOption (s : List Char) : Bool :=
    match s with
    | '-' :: c :: letters => (c :: letters).all fun c => "neE".toList.contains c
    | _ => false
  let letters := (process.arguments.takeWhile isOption).flatten
  let words := process.arguments.dropWhile isOption
  let escapes := (letters.reverse.find? fun c => c = 'e' || c = 'E') = some 'e'
  process.say (Format.echo escapes (if letters.contains 'n' then ['-', 'n'] :: words else words))
  return 0

/-- Prints a formatted text with the complaints about its arguments. -/
def printf (process : Process) : Step Nat := do
  let operands := match process.arguments with
    | ['-', '-'] :: rest => rest
    | arguments => arguments
  match operands with
  | [] => misuse process "missing operand".toList 1
  | format :: rest =>
    let printed := Format.printf (.full process.isWide) format rest
    printed.pieces.forM fun
      | .text s => process.say s
      | .fault fault => process.complain fault.fullMessage
    return min printed.status 1

/-- Prints the working directory; a given path that leads there may be kept. -/
def pwd (process : Process) : Step Nat :=
  process.withOptions { plain := "LP", words := [("logical", 'L'), ("physical", 'P')] } 1
    fun options => do
      let files := (← get).files
      let given := (givenValue process "PWD".toList).getD []
      let isPlain := (Text.pieces '/' given).all fun piece =>
        piece ≠ ['.'] && piece ≠ ['.', '.']
      let leadsHere := match files.resolve (textOfRaw given) with
        | .ok name => decide (name = files.workingDirectory)
        | .error _ => false
      let keeps := (options.options.getLast?.map (·.1)) = some 'L'
      process.say (closed
        (if keeps && given.head? = some '/' && isPlain && leadsHere then given
          else pathOf files.workingDirectory))
      return 0

/-- Writes a text again and again. -/
def repeatOutput (process : Process) (fuel : Nat) (s : List Char) : Step Nat := do
  match fuel with
  | 0 => return 1
  | fuel + 1 =>
    modify fun kernel : Kernel => kernel.spend pieceTime
    yieldTurn
    process.say s
    match (← get).failure with
    | some refusal =>
      modify fun kernel : Kernel => { kernel with failure := none }
      process.complain ("standard output: ".toList ++ refusal.complaint.toList)
      return 1
    | none => repeatOutput process fuel s

/-- Repeats a line for as long as anybody reads it. -/
def yes (process : Process) : Step Nat :=
  process.withOptions { plain := "" } 1 fun options => do
    let words := options.operands
    let line := closed (if words.isEmpty then ['y'] else Text.joinWith [' '] words)
    let piece := (List.replicate (bufferSize / line.length + 1) line).flatten
    repeatOutput process pieceLimit piece

/-- Prints the last components of paths, without an ending. -/
def basename (process : Process) : Step Nat :=
  process.withOptions
    { plain := "az", valued := "s", strict := true
      words := [("multiple", 'a'), ("suffix", 's'), ("zero", 'z')] } 1
    fun options => do
      let refuse (message : List Char) : Step Nat := do
        misuse process message 1
      let ending (suffix s : List Char) : List Char :=
        let name := lastComponent s
        if suffix.isSuffixOf name && name ≠ suffix then
          name.take (name.length - suffix.length)
        else name
      let ends := if options.has 'z' then ['\x00'] else ['\n']
      match options.operands with
      | [] => refuse "missing operand".toList
      | names =>
        if options.has 'a' || options.has 's' then
          let suffix := (options.value? 's').getD []
          process.say (names.flatMap fun name => ending suffix name ++ ends)
          return 0
        else
          match names with
          | [name] => process.say (ending [] name ++ ends)
          | [name, suffix] => process.say (ending suffix name ++ ends)
          | _ => return ← refuse ("extra operand '".toList ++ (names[2]?).getD [] ++ ['\''])
          return 0

/-- Prints paths without their last components. -/
def dirname (process : Process) : Step Nat :=
  process.withOptions { plain := "z", words := [("zero", 'z')] } 1 fun options => do
    let ends := if options.has 'z' then ['\x00'] else ['\n']
    if options.operands.isEmpty then return ← misuse process "missing operand".toList 1
    process.say (options.operands.flatMap fun name => leadingPart name ++ ends)
    return 0

/-- Prints variables that the process was given. -/
def printenv (process : Process) : Step Nat :=
  process.withOptions { plain := "0" } 2 fun options => do
    let ends := if options.has '0' then ['\x00'] else ['\n']
    if options.operands.isEmpty then
      process.say (process.given.flatMap fun s => s ++ ends)
      return 0
    options.operands.foldlM (fun status name => do
      match givenValue process name with
      | some value =>
        process.say (value ++ ends)
        return status
      | none => return 1) 0

end CheckedBuild.Machine.Tools
