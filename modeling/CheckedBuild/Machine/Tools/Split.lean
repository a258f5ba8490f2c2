import CheckedBuild.Archive.Listing
import CheckedBuild.Machine.Tools.Blocks

/-!
# Splitting files

An input is cut into pieces of so many lines or bytes, or into so many pieces, which are written to
files whose names are counted up with letters or digits.
-/

namespace CheckedBuild.Machine.Tools

open Process

/-- How an input is cut. -/
inductive Cutting where
  | lines (count : Nat)
  | bytes (count : Nat)
  /-- Whole lines of at most so many bytes. -/
  | lineBytes (count : Nat)
  | pieces (count : Nat)
  | linePieces (count : Nat)
  /-- Lines go to the pieces in turns. -/
  | turns (count : Nat)

/-- The endings of names with a fixed count of digits in a base. -/
def countedEnding (digits : List Char) (width n : Nat) : List Char :=
  ((List.range width).map fun i =>
    (digits[n / Nat.pow digits.length i % digits.length]?).getD 'a').reverse

/-- The ending of the name of a piece. Before the last digit would come first it is put in front of
endings that are longer by one. -/
def growingEnding (digits : List Char) (fuel width n : Nat) : List Char :=
  match fuel with
  | 0 => []
  | fuel + 1 =>
    let count := (digits.length - 1) * Nat.pow digits.length (width - 1)
    if n < count then countedEnding digits width n
    else (digits.getLast?.getD 'z') :: growingEnding digits fuel (width + 1) (n - count)

/-- Lines with what ends them. -/
def endedLines (ending : Char) (s : List Char) : List (List Char) :=
  let lines := Text.pieces ending s
  let whole := lines.dropLast.map (· ++ [ending])
  match lines.getLast? with
  | some [] | none => whole
  | some last => whole ++ [last]

/-- Lines put together to pieces of at most so many bytes; longer lines are cut. -/
def filledPieces (size : Nat) (lines : List (List Char)) : List (List Char) :=
  let (pieces, open?) := lines.foldl (fun ((pieces, piece) : List (List Char) × List Char) line =>
    if piece.length + line.length ≤ size then (pieces, piece ++ line)
    else
      let pieces := if piece.isEmpty then pieces else pieces ++ [piece]
      let parts := chunks size line
      (pieces ++ parts.dropLast, parts.getLast?.getD [])) ([], [])
  if open?.isEmpty then pieces else pieces ++ [open?]

/-- Where so many pieces of a size end. -/
def pieceEnds (size count : Nat) : List Nat :=
  (List.range count).map fun i => (i + 1) * (size / count) + min (i + 1) (size % count)

/-- Lines put together to pieces that end with the line in which their share of the bytes ends. -/
def sharedPieces (ends : List Nat) (position : Nat) (lines : List (List Char)) :
    List (List Char) :=
  match ends with
  | [] => []
  | stop :: ends =>
    let (piece, rest, position) := takeUntil stop position lines
    piece :: sharedPieces ends position rest
where
  /-- Takes lines that begin before a position. -/
  takeUntil (stop position : Nat) : List (List Char) → List Char × List (List Char) × Nat
    | line :: rest =>
      if position < stop then
        let (piece, others, position) := takeUntil stop (position + line.length) rest
        (line ++ piece, others, position)
      else ([], line :: rest, position)
    | [] => ([], [], position)

/-- The pieces of an input. -/
def Cutting.cut (cutting : Cutting) (ending : Char) (s : List Char) : List (List Char) :=
  match cutting with
  | .lines count => (chunks count (endedLines ending s)).map List.flatten
  | .bytes count => chunks count s
  | .lineBytes count => filledPieces count (endedLines ending s)
  | .pieces count =>
    let ends := pieceEnds s.length count
    (0 :: ends).zip ends |>.map fun (start, stop) => (s.drop start).take (stop - start)
  | .linePieces count => sharedPieces (pieceEnds s.length count) 0 (endedLines ending s)
  | .turns count =>
    let lines := (endedLines ending s).zipIdx
    (List.range count).map fun i =>
      (lines.filterMap fun (line, j) => if j % count = i then some line else none).flatten

/-- A cutting into so many pieces, of which only one may be wanted. -/
def readPieces? (s : List Char) : Option (Cutting × Option Nat) :=
  let read (make : Nat → Cutting) (s : List Char) : Option (Cutting × Option Nat) :=
    match Text.pieces '/' s with
    | [count] => (Text.natural? count).bind fun n => if n = 0 then none else some (make n, none)
    | [wanted, count] => do
      let n ← Text.natural? count
      let k ← Text.natural? wanted
      if n = 0 || k = 0 || n < k then none else some (make n, some k)
    | _ => none
  match s with
  | 'l' :: '/' :: rest => read .linePieces rest
  | 'r' :: '/' :: rest => read .turns rest
  | _ => read .pieces s

/-- What the options say about the cutting. -/
def cuttingOf (options : Arguments) : Except (List Char × Bool) (Cutting × Option Nat) := do
  let count (what : String) (value : List Char) : Except (List Char × Bool) Nat :=
    match byteCount? value with
    | some (n + 1) => .ok (n + 1)
    | _ => .error ("invalid number of ".toList ++ what.toList ++ ": ".toList ++ marked value,
      false)
  let digits := (options.options.filter fun o => o.1.isDigit).map (·.1)
  let chosen := options.options.filter fun o => ['l', 'b', 'C', 'n'].contains o.1
  match chosen with
  | [] =>
    if digits.isEmpty then return (.lines 1000, none)
    return (.lines (← count "lines" digits), none)
  | [(letter, value)] =>
    if !digits.isEmpty then throw ("cannot split in more than one way".toList, true)
    match letter with
    | 'l' => return (.lines (← count "lines" value), none)
    | 'b' => return (.bytes (← count "bytes" value), none)
    | 'C' => return (.lineBytes (← count "lines" value), none)
    | _ =>
      match readPieces? value with
      | some found => return found
      | none => throw ("invalid number of chunks: ".toList ++ marked value, false)
  | _ => throw ("cannot split in more than one way".toList, true)

/-- The digits that the endings of names are counted in, and where counting begins. -/
def endingDigits (options : Arguments) : List Char × Nat :=
  let start (letter : Char) : Nat := ((options.value? letter).bind Text.natural?).getD 0
  if options.has 'x' then ("0123456789abcdef".toList, start 'X')
  else if options.has 'd' then ("0123456789".toList, start 'd')
  else ("abcdefghijklmnopqrstuvwxyz".toList, 0)

/-- Writes a piece to a file. -/
def writePiece (process : Process) (name piece : List Char) (tells : Bool) : Step Nat := do
  if tells then process.say (closed ("creating file ".toList ++ marked name))
  match ← tryFiles fun files => files.write (textOfRaw name) (bytesOfRaw piece) with
  | .ok () => return 0
  | .error refusal =>
    process.warn (process.blame name refusal)
    return 1

/-- Cuts an input into files. -/
def split (process : Process) : Step Nat :=
  process.withOptions
    { plain := "dexu0123456789", valued := "abClnt"
      words := [("suffix-length", 'a'), ("additional-suffix", 'A'), ("bytes", 'b'),
        ("line-bytes", 'C'), ("numeric-suffixes", 'd'), ("hex-suffixes", 'x'), ("lines", 'l'),
        ("number", 'n'), ("elide-empty-files", 'e'), ("separator", 't'), ("verbose", 'v'),
        ("unbuffered", 'u')] } 1
    fun options => do
      match cuttingOf options, options.operands with
      | .error (message, isMisuse), _ =>
        if isMisuse then misuse process message 1
        else do
          process.complain message
          return 1
      | .ok _, _ :: _ :: extra :: _ => misuse process ("extra operand ".toList ++ marked extra) 1
      | .ok (cutting, wanted), operands =>
        let name := operands.headD ['-']
        match ← process.openInput (some name) with
        | .error refusal =>
          process.warn (process.name ++ ": cannot open ".toList ++ marked name
            ++ " for reading: ".toList ++ refusal.complaint.toList)
          return 1
        | .ok number =>
          let separator := match options.value? 't' with
            | some ['\\', '0'] => '\x00'
            | some (c :: _) => c
            | _ => '\n'
          let pieces := cutting.cut separator (← readAll number)
          match wanted with
          | some k =>
            process.say ((pieces[k - 1]?).getD [])
            return 0
          | none =>
            let pieces := if options.has 'e' then pieces.filter fun s => !s.isEmpty else pieces
            let (digits, start) := endingDigits options
            let width? := (options.value? 'a').bind Text.natural? |>.filter (· ≠ 0)
            let count := match cutting with
              | .pieces n | .linePieces n | .turns n => n
              | _ => 0
            let least := max 2 (countedWidth digits.length (count + start) 10)
            let room := width?.map fun width => Nat.pow digits.length width
            let ending (i : Nat) : List Char :=
              match width? with
              | some width => countedEnding digits width (start + i)
              | none =>
                if count = 0 && start = 0 then growingEnding digits 64 2 i
                else countedEnding digits least (start + i)
            let leading := (operands[1]?).getD ['x']
            pieces.zipIdx.foldlM (fun status (piece, i) => do
              if status ≠ 0 then return status
              if room.any (· ≤ start + i) then
                process.complain "output file suffixes exhausted".toList
                return 1
              let name := leading ++ ending i ++ (options.value? 'A').getD []
              writePiece process name piece (options.has 'v')) 0
where
  /-- How many digits the numbers below a limit need. -/
  countedWidth (base limit fuel : Nat) : Nat :=
    ((List.range fuel).find? fun width => limit ≤ Nat.pow base width).getD fuel

end CheckedBuild.Machine.Tools
