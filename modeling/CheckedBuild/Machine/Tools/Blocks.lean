import CheckedBuild.Machine.Tools.Files

/-!
# Tools on blocks and sizes

These tools copy blocks of a file and set the size of files.
-/

namespace CheckedBuild.Machine.Tools

open Process

/-- A number of bytes, with letters for a unit. -/
def byteCount? (s : List Char) : Option Nat :=
  let digits := s.takeWhile Char.isDigit
  let unit? : Option Nat := match String.ofList (s.drop digits.length) with
    | "" | "c" | "B" => some 1
    | "w" => some 2
    | "b" => some 512
    | "k" | "K" | "KiB" => some 1024
    | "kB" | "KB" => some 1000
    | "m" | "M" | "MiB" => some 1048576
    | "mB" | "MB" => some 1000000
    | "g" | "G" | "GiB" => some 1073741824
    | "gB" | "GB" => some 1000000000
    | _ => none
  match Text.natural? digits, unit? with
  | some n, some unit => some (n * unit)
  | _, _ => none

/-- A product of numbers of bytes. -/
def byteProduct? (s : List Char) : Option Nat :=
  ((Text.pieces 'x' s).mapM byteCount?).map fun factors => factors.foldl (· * ·) 1

/-- What is to be copied, and how. -/
structure BlockCopy where
  operands : List (String × List Char) := []

namespace BlockCopy

/-- The value of an operand. -/
def value? (copy : BlockCopy) (name : String) : Option (List Char) := copy.operands.lookup name

/-- The words of an operand that lists some. -/
def words (copy : BlockCopy) (name : String) : List String :=
  ((copy.value? name).map fun s => (Text.pieces ',' s).map String.ofList).getD []

/-- Whether an operand lists a word. -/
def has (copy : BlockCopy) (name word : String) : Bool := (copy.words name).contains word

/-- The number that an operand gives. -/
def number? (copy : BlockCopy) (name : String) : Option Nat :=
  (copy.value? name).bind byteProduct?

/-- The size of the blocks that are read. -/
def inputSize (copy : BlockCopy) : Nat :=
  max 1 ((copy.number? "bs" <|> copy.number? "ibs").getD 512)

/-- The size of the blocks that are written. -/
def outputSize (copy : BlockCopy) : Nat :=
  max 1 ((copy.number? "bs" <|> copy.number? "obs").getD 512)

/-- An amount of bytes, which an operand gives in blocks unless a flag or its own letter says
otherwise. -/
def amount? (copy : BlockCopy) (name flags word : String) (size : Nat) : Option Nat :=
  let inBytes := copy.has flags word || (copy.value? name).any fun s => s.getLast? = some 'B'
  (copy.number? name).map fun n => if inBytes then n else n * size

end BlockCopy

/-- The names of operands whose values are numbers. -/
def numberOperands : List String := ["bs", "ibs", "obs", "cbs", "count", "skip", "seek"]

/-- The names of all operands. -/
def blockOperands : List String :=
  numberOperands ++ ["if", "of", "conv", "status", "iflag", "oflag", "iseek", "oseek"]

/-- The words for conversions. -/
def conversions : List String :=
  ["ascii", "ebcdic", "ibm", "block", "unblock", "lcase", "ucase", "sparse", "swab", "sync",
   "excl", "nocreat", "notrunc", "noerror", "fdatasync", "fsync"]

/-- Reads the operands, or says what is wrong with them; the flag tells that help is offered. -/
def readBlockCopy (arguments : List (List Char)) : Except (List Char × Bool) BlockCopy := do
  let copy ← arguments.foldlM (fun (copy : BlockCopy) s => do
    let name := String.ofList (s.takeWhile (· ≠ '='))
    let value := (s.drop name.length).drop 1
    if !s.contains '=' || !blockOperands.contains name then
      .error ("unrecognized operand ".toList ++ marked s, true)
    else
      let name := if name = "iseek" then "skip" else if name = "oseek" then "seek" else name
      if numberOperands.contains name then
        match byteProduct? value with
        | none => .error ("invalid number: ".toList ++ marked value, false)
        | some n =>
          if n = 0 && ["bs", "ibs", "obs", "cbs"].contains name then
            .error ("invalid number: ".toList ++ marked value, false)
      .ok { copy with operands := (name, value) :: copy.operands }) {}
  match (copy.words "conv").find? fun word => !conversions.contains word with
  | some word => .error ("invalid conversion: ".toList ++ marked word.toList, true)
  | none =>
    if copy.has "conv" "lcase" && copy.has "conv" "ucase" then
      .error ("cannot combine lcase and ucase".toList, false)
    else .ok copy

/-- Bytes with every two of them exchanged. -/
def swapped : List Char → List Char
  | a :: b :: rest => b :: a :: swapped rest
  | rest => rest

/-- Bytes filled up to a multiple of a size. -/
def filledUp (size : Nat) (s : List Char) : List Char :=
  s ++ List.replicate ((size - s.length % size) % size) '\x00'

/-- Bytes after the conversions that operands ask for. -/
def BlockCopy.convert (copy : BlockCopy) (s : List Char) : List Char :=
  let s := if copy.has "conv" "swab" then swapped s else s
  let s := if copy.has "conv" "sync" then filledUp copy.inputSize s else s
  if copy.has "conv" "ucase" then s.map Char.toUpper
  else if copy.has "conv" "lcase" then s.map Char.toLower
  else s

/-- How many blocks were whole, and how many were not. -/
structure BlockCount where
  whole : Nat := 0
  parts : Nat := 0

namespace BlockCount

/-- One more block of some length. -/
def add (count : BlockCount) (size length : Nat) : BlockCount :=
  if length = 0 then count
  else if length < size then { count with parts := count.parts + 1 }
  else { count with whole := count.whole + 1 }

/-- The count as it is shown. -/
def shown (count : BlockCount) : List Char := decimal count.whole ++ '+' :: decimal count.parts

end BlockCount

/-- How far blocks have been copied. -/
structure BlockProgress where
  received : BlockCount := {}
  sent : BlockCount := {}
  /-- How many bytes have been written. -/
  size : Nat := 0
  /-- What makes no block to be written as yet. -/
  kept : List Char := []
  refusal : Option Refusal := none

/-- Opens the file that is written to, at the place where writing begins. -/
def openTarget (process : Process) (copy : BlockCopy) :
    Step (Except (List Char × Refusal) (Option Nat)) := do
  match copy.value? "of" with
  | none => return .ok (process.descriptors.lookup 1)
  | some name =>
    let found := (← nodeAt name).toOption
    if copy.has "conv" "excl" && found.isSome then return .error (name, .occupied)
    if copy.has "conv" "nocreat" && found.isNone then return .error (name, .notFound)
    let appends := copy.has "oflag" "append"
    let access : Kernel.Access := if appends then .append else .write true
    let kernel ← get
    match kernel.openForWriting process.descriptors access (textOfRaw name) with
    | .error refusal => return .error (name, refusal)
    | .ok (number, kernel) =>
      let start := (copy.amount? "seek" "oflag" "seek_bytes" copy.outputSize).getD 0
      set (match kernel.stream number with
        | .file file =>
          let kernel := kernel.setStream number (.file { file with position := start })
          if copy.has "conv" "notrunc" then kernel
          else
            { kernel with
              files := kernel.files.changeData file.number fun data => data.resize start }
        | _ => kernel)
      return .ok (some number)

/-- How much is copied at most: a number of blocks, or a number of bytes. -/
inductive BlockLimit where
  | none
  | blocks (count : Nat)
  | bytes (count : Nat)

/-- How much is copied at most. -/
def BlockCopy.limit (copy : BlockCopy) : BlockLimit :=
  match copy.number? "count" with
  | Option.none => .none
  | some n =>
    if copy.amount? "count" "iflag" "count_bytes" 0 = some n && n ≠ 0 then .bytes n else .blocks n

/-- Writes a block. -/
def writeBlock (output : Option Nat) (size : Nat) (s : List Char) (progress : BlockProgress) :
    Step BlockProgress := do
  if s.isEmpty then return progress
  let refusal? ← match output with
    | some number => putAll number (bytesOfRaw s)
    | none => pure (some .badDescriptor)
  match refusal? with
  | some _ => return { progress with refusal := refusal? }
  | none =>
    return { progress with
      sent := progress.sent.add size s.length, size := progress.size + s.length }

/-- Writes blocks of a size out of what has been kept. -/
def writeKept (output : Option Nat) (size : Nat) (all : Bool) (fuel : Nat)
    (progress : BlockProgress) : Step BlockProgress := do
  match fuel with
  | 0 => return progress
  | fuel + 1 =>
    let block := progress.kept.take size
    if progress.refusal.isSome || block.isEmpty || (!all && block.length < size) then
      return progress
    let rest := progress.kept.drop size
    let progress ← writeBlock output size block { progress with kept := rest }
    writeKept output size all fuel progress

/-- Writes what has been kept, and the last block even if it is not whole. Blocks whose size is
given for reading and writing are written as they come. -/
def BlockCopy.writeBlocks (copy : BlockCopy) (output : Option Nat) (isLast : Bool)
    (progress : BlockProgress) : Step BlockProgress :=
  let size := copy.outputSize
  if (copy.value? "bs").isSome then
    writeBlock output size progress.kept { progress with kept := [] }
  else writeKept output size isLast (progress.kept.length + 1) progress

/-- Copies blocks up to a limit. -/
def copyBlocks (copy : BlockCopy) (input : Nat) (output : Option Nat) (fuel : Nat)
    (limit : BlockLimit) (progress : BlockProgress) : Step BlockProgress := do
  match fuel with
  | 0 => return progress
  | fuel + 1 =>
    if progress.refusal.isSome then return progress
    let size := copy.inputSize
    let count := match limit with
      | .none => size
      | .blocks n => if n = 0 then 0 else size
      | .bytes n => min n size
    if count = 0 then return progress
    yieldTurn
    let bytes ← if copy.has "iflag" "fullblock" then takeFully pieceLimit input count []
      else takeUpTo input count
    if bytes.isEmpty then return progress
    let progress ← copy.writeBlocks output false
      { progress with
        received := progress.received.add size bytes.length
        kept := progress.kept ++ copy.convert (rawOfBytes bytes) }
    let limit : BlockLimit := match limit with
      | .none => .none
      | .blocks n => .blocks (n - 1)
      | .bytes n => .bytes (n - bytes.length)
    copyBlocks copy input output fuel limit progress

/-- Copies blocks. -/
def dd (process : Process) : Step Nat := do
  match readBlockCopy process.arguments with
  | .error (message, true) => misuse process message 1
  | .error (message, false) =>
    process.complain message
    return 1
  | .ok copy =>
    let notOpened (name : List Char) (refusal : Refusal) : Step Nat :=
      failed process "open" name refusal
    let opened ← match copy.value? "if" with
      | none => pure process.inputStream
      | some name => process.openFile name
    match opened with
    | .error refusal => notOpened ((copy.value? "if").getD "standard input".toList) refusal
    | .ok input =>
      match ← openTarget process copy with
      | .error (name, refusal) => notOpened name refusal
      | .ok output =>
        let size := copy.inputSize
        let skipped := (copy.amount? "skip" "iflag" "skip_bytes" size).getD 0
        let passed ← takeFully pieceLimit input skipped []
        if passed.length < skipped then
          process.warn (process.name ++ ": ".toList ++ marked ((copy.value? "if").getD
            "standard input".toList) ++ ": cannot skip to specified offset".toList)
        let refused ← readRefusal? input
        if let some refusal := refused then
          process.complain ("error reading ".toList
            ++ marked ((copy.value? "if").getD "standard input".toList) ++ ": ".toList
            ++ refusal.complaint.toList)
        let target := marked ((copy.value? "of").getD "standard output".toList)
        let progress ← copyBlocks copy input output pieceLimit copy.limit {}
        let progress ← copy.writeBlocks output true progress
        if let some refusal := progress.refusal then
          process.complain ("error writing ".toList ++ target ++ ": ".toList
            ++ refusal.complaint.toList)
        if output.isNone then
          -- what is not open cannot be closed
          process.complain ("closing output file ".toList ++ target ++ ": ".toList
            ++ Refusal.badDescriptor.complaint.toList)
          return 1
        let status := copy.value? "status"
        let sent := progress.size
        if status ≠ some "none".toList then
          process.warn (progress.received.shown ++ " records in".toList)
          process.warn (progress.sent.shown ++ " records out".toList)
          if status ≠ some "noxfer".toList then
            process.warn (decimal sent ++ (if sent = 1 then " byte" else " bytes").toList
              ++ " copied, 0.0001 s, ".toList ++ decimal (sent / 100 + 1) ++ ".0 kB/s".toList)
        return if progress.refusal.isSome || refused.isSome then 1 else 0

/-- The size that a text makes of another one. -/
def resized? (size : List Char) (old : Nat) : Option Nat :=
  match size with
  | '+' :: s => (byteCount? s).map (old + ·)
  | '-' :: s => (byteCount? s).map (old - ·)
  | '<' :: s => (byteCount? s).map (min old)
  | '>' :: s => (byteCount? s).map (max old)
  | '/' :: s => (byteCount? s).map fun n => old / max 1 n * n
  | '%' :: s => (byteCount? s).map fun n => (old + n - 1) / max 1 n * n
  | s => byteCount? s

/-- Sets the sizes of files. -/
def truncate (process : Process) : Step Nat :=
  process.withOptions
    { plain := "co", valued := "sr"
      words := [("size", 's'), ("no-create", 'c'), ("reference", 'r'), ("io-blocks", 'o')] } 1
    fun options => do
      let size? := options.value? 's'
      let wrong : Option (List Char) := size?.filter fun s => (resized? s 0).isNone
      match wrong with
      | some s =>
        process.complain ("Invalid number: ".toList ++ marked s)
        return 1
      | none =>
        if size?.isNone && !options.has 'r' then
          return ← misuse process "you must specify either '--size' or '--reference'".toList 1
        let isRelative := (size?.bind List.head?).any fun c => !c.isDigit
        if options.has 'r' && size?.isSome && !isRelative then
          return ← misuse process
            "you must specify a relative '--size' with '--reference'".toList 1
        if options.operands.isEmpty then
          return ← misuse process "missing file operand".toList 1
        let reference? ← match options.value? 'r' with
          | none => pure none
          | some path =>
            match ← nodeAt path with
            | .ok (_, node) => pure (some node.size)
            | .error refusal =>
              return ← cannot process "stat" path refusal
        onEach options.operands fun name => do
          if options.has 'c' && !(← nodeAt name).toBool then return 0
          match ← tryFiles fun files => (files.create true (textOfRaw name)).map (·.1) with
          | .error refusal =>
            process.complain ("cannot open ".toList ++ marked name ++ " for writing: ".toList
              ++ refusal.complaint.toList)
            return 1
          | .ok () =>
            match ← nodeAt name with
            | .ok (place, node) =>
              let old := reference?.getD node.size
              let new := match size? with
                | some s => (resized? s old).getD old
                | none => old
              changeFiles fun files =>
                match files.number? place with
                | some number => files.changeData number fun data => data.resize new
                | none => files
              return 0
            | .error _ => return 1

end CheckedBuild.Machine.Tools
