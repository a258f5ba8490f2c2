import CheckedBuild.Machine.Tools.Listing

/-!
# What is on record about files

A format says which facts about a file are told: letters behind percent signs stand for them.
Directories can be asked how much is in them.
-/

namespace CheckedBuild.Machine.Tools

open Process

/-- A name in single quotes, or in double ones if it holds a single one. -/
def shellQuoted (name : List Char) : List Char :=
  if name.contains '\'' then '"' :: name ++ ['"'] else marked name

/-- A time as a date with its zone. -/
def dateAndZone (time : Nat) : List Char :=
  (Text.Calendar.dateOf (time / 1000000000 : Nat) (time % 1000000000)).written
    "%Y-%m-%d %H:%M:%S.%N %z".toList

/-- A time in seconds with so many decimal places. -/
def secondsOf (places : Nat) (time : Nat) : List Char :=
  let digits := decimal (time % 1000000000)
  let fraction := List.replicate (9 - digits.length) '0' ++ digits
  decimal (time / 1000000000) ++ (if places = 0 then [] else '.' :: fraction.take places)

/-- The bits for the kind of a node. -/
def kindBits (node : Node) : Nat :=
  match node.letter with
  | 'd' => 0o040000
  | 'l' => 0o120000
  | 'p' => 0o010000
  | 'c' => 0o020000
  | _ => 0o100000

/-- What a letter stands for. -/
def fact (files : FileSystem) (name : List Char) (place : Name) (node : Node)
    (precision : Option Nat) (letter : Char) : List Char :=
  match letter with
  | 'a' => Nat.toDigits 8 node.mode
  | 'A' => node.letter :: modeLetters node.mode
  | 'b' => decimal (blocksOf node * 2)
  | 'B' => "512".toList
  | 'd' => "65024".toList
  | 'D' => "fe00".toList
  | 'f' => Nat.toDigits 16 (kindBits node ||| node.mode)
  | 'F' => node.kind.toList
  | 'g' | 'u' | 'r' | 't' | 'T' => ['0']
  | 'G' | 'U' => "root".toList
  | 'h' => decimal (linkCount files place node)
  | 'i' => decimal ((files.number? place).getD 1 + 1000)
  | 'm' => ['/']
  | 'n' => name
  | 'N' =>
    match node.content with
    | .link target => shellQuoted name ++ " -> ".toList ++ shellQuoted (rawOf target)
    | _ => shellQuoted name
  | 'o' => "4096".toList
  | 's' => decimal node.size
  | 'w' | 'x' | 'y' | 'z' => dateAndZone node.changed
  | 'W' | 'X' | 'Y' | 'Z' => secondsOf (precision.getD 0) node.changed
  | _ => ['?']

/-- A fact in its field: flags, a width and a precision come before the letter. -/
def factField (files : FileSystem) (name : List Char) (place : Name) (node : Node)
    (format : List Char) : List Char × List Char :=
  let flags := format.takeWhile "'-+ #0".toList.contains
  let rest := format.drop flags.length
  let digits := rest.takeWhile Char.isDigit
  let rest := rest.drop digits.length
  let width := (Text.natural? digits).getD 0
  let (precision, rest) : Option Nat × List Char :=
    match rest with
    | '.' :: tail =>
      let digits := tail.takeWhile Char.isDigit
      (some ((Text.natural? digits).getD 9), tail.drop digits.length)
    | rest => (none, rest)
  match rest with
  | [] => (['%'], [])
  | '%' :: tail => (['%'], tail)
  | letter :: tail =>
    let isTime := "WXYZ".toList.contains letter
    let isNumber := isTime || "abBdfghiorstTu".toList.contains letter
    let s := fact files name place node precision letter
    let s := if flags.contains '#' && letter = 'a' then '0' :: s else s
    let field : Format.Field :=
      { width, left := flags.contains '-', zeros := flags.contains '0'
        precision := if isNumber then none else precision }
    (if isNumber then field.number [] s true else field.text s, tail)

/-- A character that an escape stands for, and what follows it. -/
def formatEscape (s : List Char) : List Char × List Char :=
  match Format.escape? false s with
  | some (c, rest) => ([c], rest)
  | none => (s.take 1, s.drop 1)

/-- Facts about a node as a format tells them; escapes may have a meaning in it. -/
def described (files : FileSystem) (name : List Char) (place : Name) (node : Node)
    (escapes : Bool) (fuel : Nat) (format : List Char) : List Char :=
  match fuel, format with
  | fuel + 1, '%' :: rest =>
    let (s, rest) := factField files name place node rest
    s ++ described files name place node escapes fuel rest
  | fuel + 1, '\\' :: rest =>
    if escapes then
      let (s, rest) := formatEscape rest
      s ++ described files name place node escapes fuel rest
    else '\\' :: described files name place node escapes fuel rest
  | fuel + 1, c :: rest => c :: described files name place node escapes fuel rest
  | _, _ => []

/-- Everything that is on record about a node. -/
def fullFormat (node : Node) : List Char :=
  let size := ("  File: " ++ (if node.isLink then "%N" else "%n")
    ++ "\n  Size: %-10s\tBlocks: %-10b IO Block: %-6o %F\n").toList
  let device := ("Device: 254,0\tInode: %-10i  Links: "
    ++ (if node.letter = 'c' then "%-5h Device type: %t,%T\n" else "%h\n")).toList
  size ++ device
    ++ ("Access: (%04a/%A)  Uid: (%5u/%8U)   Gid: (%5g/%8G)\nAccess: %x\nModify: %y\n"
      ++ "Change: %z\n Birth: %w\n").toList

/-- Tells what is on record about files. -/
def stat (process : Process) : Step Nat :=
  process.withOptions
    { plain := "Lft", valued := "c="
      words := [("format", 'c'), ("printf", '='), ("dereference", 'L'), ("file-system", 'f'),
        ("terse", 't')] } 1
    fun options => do
      if options.operands.isEmpty then return ← misuse process "missing operand".toList 1
      onEach options.operands fun name => do
        let kernel ← get
        let found := if name = ['-'] then
            kernel.find process.descriptors "/dev/stdin"
          else kernel.find process.descriptors (textOfRaw name) (options.has 'L')
        match found with
        | .error refusal =>
          process.complain ("cannot statx ".toList ++ marked name ++ ": ".toList
            ++ refusal.complaint.toList)
          return 1
        | .ok (place, node) =>
          let tell (escapes : Bool) (format : List Char) : List Char :=
            described kernel.files name place node escapes (format.length + 1) format
          let last := options.options.reverse.find? fun o => o.1 = 'c' || o.1 = '='
          process.say (match last with
            | some ('=', format) => tell true format
            | some (_, format) => closed (tell false format)
            | none =>
              if options.has 't' then
                closed (tell false "%n %s %b %f %u %g %D %i %h %t %T %X %Y %Z %W %o".toList)
              else tell false (fullFormat node))
          return 0

/-- How options count what a node takes. -/
def usageOf (options : Arguments) (node : Node) : Nat :=
  if options.has 'b' || options.has '=' then
    match node.content with
    | .file _ | .link _ | .tool _ => node.size
    | _ => 0
  else blocksOf node * 1024

/-- An amount of bytes as options show it. -/
def shownUsage (options : Arguments) (bytes : Nat) : List Char :=
  if options.has 'h' then humanSize 1024 bytes
  else
    let unit := if options.has 'b' then 1
      else if options.has 'm' then 1048576
      else ((options.value? 'B').bind unitOf?).getD 1024
    decimal (ceilDiv bytes (max 1 unit))

/-- How much is at a name and below it. Nodes with several names count once. -/
def usageBelow (process : Process) (options : Arguments) (fuel level : Nat) (seen : List Nat)
    (path : List Char) (place : Name) : Step (Nat × List Nat) := do
  match fuel, (← get).files.node? place with
  | fuel + 1, some node =>
    let number := ((← get).files.number? place).getD 0
    if seen.contains number && !node.isDirectory then return (0, seen)
    let entries := ((← get).files.entries place).map (·.1)
    let entries := if node.isDirectory then entries.mergeSort fun a b => a ≤ b else []
    let (total, seen) ← entries.foldlM (fun (total, seen) entry => do
      let (bytes, seen) ← usageBelow process options fuel (level + 1) seen
        (joined path (rawOf entry)) (place ++ [entry])
      return (total + bytes, seen)) (usageOf options node, number :: seen)
    let deepest := ((options.value? 'd').bind Text.natural?).getD nestingLimit
    let isShown := level = 0
      || ((node.isDirectory || options.has 'a') && !options.has 's' && level ≤ deepest)
    if isShown then
      process.say (closed (shownUsage options total ++ '\t' :: path))
    return (total, seen)
  | _, _ => return (0, seen)

/-- Tells how much directories hold. -/
def du (process : Process) : Step Nat :=
  process.withOptions
    { plain := "abchkmsxlLSD0P", valued := "dBt"
      words := [("all", 'a'), ("bytes", 'b'), ("total", 'c'), ("human-readable", 'h'),
        ("summarize", 's'), ("max-depth", 'd'), ("apparent-size", '='), ("block-size", 'B')] } 1
    fun options => do
      let names := if options.operands.isEmpty then [['.']] else options.operands
      let (status, total, _) ← names.foldlM (fun (status, total, seen) name => do
        match ← nodeAt name (options.has 'L' || options.has 'D') with
        | .error refusal =>
          let _ ← cannot process "access" name refusal
          return (1, total, seen)
        | .ok (place, _) =>
          let (bytes, seen) ← usageBelow process options nestingLimit 0 seen name place
          return (status, total + bytes, seen)) (0, 0, ([] : List Nat))
      if options.has 'c' then
        process.say (closed (shownUsage options total ++ "\ttotal".toList))
      return status

end CheckedBuild.Machine.Tools
