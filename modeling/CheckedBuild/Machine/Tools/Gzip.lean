import CheckedBuild.Archive.Gzip.Member
import CheckedBuild.Machine.Tools.Format
import CheckedBuild.Machine.Tools.Operands

/-!
# Packing files

A file is replaced by a packed one whose name has a further ending, and the other way round; or
what is packed or unpacked goes to standard output. Lesser faults make the status 2, and graver
ones 1.
-/

namespace CheckedBuild.Machine.Tools

open Process

/-- How files are packed or unpacked. -/
structure Packing where
  arguments : Arguments
  unpacks : Bool
  toOutput : Bool
  ending : List Char

namespace Packing

/-- Whether an option is given. -/
def has (packing : Packing) (letter : Char) : Bool := packing.arguments.has letter

/-- How much is asked of the packing. -/
def effort (packing : Packing) : Gzip.Effort :=
  match (packing.arguments.options.map (·.1)).reverse.find? Char.isDigit with
  | some '1' => .least
  | some '9' => .most
  | _ => .usual

/-- Whether names and times are told, or made use of. -/
def usesNames (packing : Packing) : Bool :=
  match (packing.arguments.options.map (·.1)).reverse.find? fun c => c = 'n' || c = 'N' with
  | some letter => letter = 'N'
  | none => !packing.unpacks

end Packing

/-- A message of the packing tool, after an empty line if it concerns what is in a file. -/
def packingMessage (process : Process) (inside : Bool) (name : List Char) (message : String) :
    Step Unit := do
  if inside then process.warn []
  process.warn ("gzip: ".toList ++ name ++ message.toList)

/-- The wording of a fault of a packed file. -/
def packedFault : Gzip.MemberError → String
  | .foreign => ": not in gzip format"
  | .cutShort => ": unexpected end of file"
  | .damaged => ": invalid compressed data--format violated"
  | .wrongSum _ => ": invalid compressed data--crc error"
  | .wrongLength _ => ": invalid compressed data--length error"

/-- How much smaller something has become, in tenths of a per cent. -/
def savedShare (whole packed : Int) : List Char :=
  let share : Text.Floating.Number :=
    .finite ⟨whole < packed, if whole = 0 then 0 else ((whole - packed) * 100).natAbs,
      if whole = 0 then 1 else whole.natAbs⟩
  ({ width := 5, precision := some 1 } : Format.Field).real .usual 'f' share ++ ['%']

/-- How many bytes of a packed file are neither header nor trailer. -/
def packedSize (packed : Bytes) : Int :=
  match Gzip.readHeader packed with
  | .ok (_, stream) => (stream.length : Int) - 8
  | .error _ => packed.length

/-- Unpacks a stream to what takes the bytes; the result is the status, and the header if there is
one. -/
def unpackTo (process : Process) (packing : Packing) (name : List Char) (packed : Bytes)
    (take : Bytes → Step Unit) : Step (Nat × Option Gzip.MemberHeader) := do
  let isQuiet := packing.has 'q'
  match Gzip.unpackMember packed with
  | .error error =>
    let isForced := packing.has 'f' && packing.toOutput
    match error, isForced with
    | .foreign, true =>
      take packed
      return (0, none)
    | _, _ =>
      match error with
      | .wrongSum bytes | .wrongLength bytes => take bytes
      | _ => pure ()
      packingMessage process true name (packedFault error)
      return (1, none)
  | .ok (header, bytes, rest) =>
    let (more, remainder) := Gzip.unpackMore (rest.length + 1) rest
    take (bytes ++ more)
    match remainder with
    | .nothing => return (0, some header)
    | .junk =>
      if !isQuiet then
        packingMessage process true name ": decompression OK, trailing garbage ignored"
      return (2, some header)
    | .error error =>
      packingMessage process true name (packedFault error)
      return (1, some header)

/-- Packs standard input, or unpacks it. -/
def packInput (process : Process) (packing : Packing) : Step Nat := do
  match process.inputStream with
  | .error refusal =>
    packingMessage process false "stdin".toList (": " ++ refusal.complaint)
    return 1
  | .ok number =>
    let kernel ← get
    let node := kernel.nodeOf number
    let bytes := bytesOfRaw (← readAll number)
    if packing.unpacks then
      return (← unpackTo process packing "stdin".toList bytes fun bytes =>
        if packing.has 't' then pure () else process.say (rawOfBytes bytes)).1
    let time :=
      if packing.usesNames && node.isRegular then node.changed / 1000000000 else 0
    let packed := Gzip.packMember packing.effort time none bytes
    process.say (rawOfBytes packed)
    if packing.has 'v' then process.warn (savedShare bytes.length (packedSize packed))
    return 0

/-- The name of the file that results, unless the name does not allow for one. -/
def Packing.resultName? (packing : Packing) (name : List Char) : Option (List Char) :=
  let has (ending : List Char) : Bool :=
    ending.isSuffixOf name && ending.length < (lastComponent name).length
  if packing.unpacks then
    let shorter (ending : List Char) : List Char := name.take (name.length - ending.length)
    if has packing.ending then some (shorter packing.ending)
    else if has ".tgz".toList then some (shorter ".tgz".toList ++ ".tar".toList)
    else [".gz", "-gz", ".z", "-z", "_z", ".Z"].findSome? fun ending =>
      if has ending.toList then some (shorter ending.toList) else none
  else if has packing.ending || has ".tgz".toList || has ".taz".toList then none
  else some (name ++ packing.ending)

/-- Writes what results from a file in its place. -/
def putResult (process : Process) (packing : Packing) (name result : List Char) (node : Node)
    (bytes : Bytes) : Step Nat := do
  let occupied := (← get).files.exists? (textOfRaw result)
  if occupied && !packing.has 'f' then
    process.warn ("gzip: ".toList ++ result ++ " already exists;\tnot overwritten".toList)
    return 2
  if occupied then
    match (← get).files.resolve (textOfRaw result) false with
    | .ok place => changeFiles fun files => files.remove place
    | .error _ => pure ()
  match ← tryFiles fun files => files.write (textOfRaw result) bytes with
  | .error refusal =>
    packingMessage process false result (": " ++ refusal.complaint)
    return 1
  | .ok () =>
    match (← get).files.resolve (textOfRaw result) with
    | .ok place =>
      changeFiles fun files => files.changeAt place fun made =>
        { made with mode := node.mode, changed := node.changed }
    | .error _ => pure ()
    if !packing.has 'k' then
      match (← get).files.resolve (textOfRaw name) false with
      | .ok place => changeFiles fun files => files.remove place
      | .error _ => pure ()
    return 0

/-- Shows the sizes of a packed file. -/
def listPacked (process : Process) (packing : Packing) (name : List Char) (packed : Bytes)
    (isFirst : Bool) : Step Nat := do
  match Gzip.readHeader packed with
  | .error error =>
    packingMessage process true name (packedFault error)
    return 1
  | .ok _ =>
    if isFirst && !packing.has 'q' then
      process.say "         compressed        uncompressed  ratio uncompressed_name\n".toList
    let size := Gzip.numberOf (packed.drop (packed.length - 4))
    let column (n : Nat) : List Char := ({ width := 19 } : Format.Field).text (decimal n)
    let shown := if name = "stdin".toList then "stdout".toList
      else (packing.resultName? name).getD name
    process.say (column packed.length ++ ' ' :: column size ++ ' '
      :: savedShare size (packedSize packed) ++ ' ' :: closed shown)
    return 0

/-- The message about what has become of a file. -/
def tellResult (process : Process) (packing : Packing) (name result : List Char)
    (share : List Char) : Step Unit := do
  if packing.has 'v' then
    let tail :=
      if packing.has 't' then " OK".toList
      else
        share ++ (if packing.has 'k' then " -- created " else " -- replaced with ").toList
          ++ if packing.toOutput then "stdout".toList else result
    process.warn (name ++ ":\t".toList ++ tail)

/-- Unpacks a file to standard output, or only tests it. -/
def unpackToOutput (process : Process) (packing : Packing) (name result : List Char)
    (bytes : Bytes) : Step Nat := do
  let (status, _) ← unpackTo process packing name bytes fun bytes =>
    if packing.has 't' then pure () else process.say (rawOfBytes bytes)
  if status ≠ 1 then
    let size := match Gzip.unpackMember bytes with
      | .ok (_, bytes, _) => bytes.length
      | .error _ => 0
    tellResult process packing name result (savedShare size (packedSize bytes))
  return status

/-- Unpacks a file into its place. -/
def unpackInPlace (process : Process) (packing : Packing) (name result : List Char) (node : Node)
    (bytes : Bytes) : Step Nat := do
  match Gzip.unpackMember bytes with
  | .error error =>
    packingMessage process true name (packedFault error)
    return 1
  | .ok (header, unpacked, rest) =>
    let (more, remainder) := Gzip.unpackMore (rest.length + 1) rest
    let result := match packing.usesNames, header.name? with
      | true, some own =>
        let own := lastComponent (rawOfBytes own)
        if result.contains '/' then joined (leadingPart result) own else own
      | _, _ => result
    let isTold := packing.usesNames && header.time ≠ 0
    let node := if isTold then { node with changed := header.time * 1000000000 } else node
    match remainder with
    | .error error =>
      packingMessage process true name (packedFault error)
      return 1
    | .nothing | .junk =>
      let isJunk := match remainder with
        | .junk => true
        | _ => false
      if isJunk && !packing.has 'q' then
        packingMessage process true name ": decompression OK, trailing garbage ignored"
      let status ← putResult process packing name result node (unpacked ++ more)
      if status = 0 then
        tellResult process packing name result
          (savedShare (unpacked.length + more.length) (packedSize bytes))
      return if isJunk then max status 2 else status

/-- Packs a file to standard output or into its place. -/
def packTo (process : Process) (packing : Packing) (name result : List Char) (node : Node) :
    Step Nat := do
  let bytes := node.bytes
  let time := if packing.usesNames then node.changed / 1000000000 else 0
  let own := if packing.usesNames then some (bytesOfRaw (lastComponent name)) else none
  let packed := Gzip.packMember packing.effort time own bytes
  let share := savedShare bytes.length (packedSize packed)
  if packing.toOutput then
    process.say (rawOfBytes packed)
    tellResult process packing name result share
    return 0
  let status ← putResult process packing name result node packed
  if status = 0 then tellResult process packing name result share
  return status

/-- Packs or unpacks a regular file. -/
def packFile (process : Process) (packing : Packing) (name : List Char) (node : Node)
    (isFirst : Bool) : Step Nat := do
  let isKept := packing.toOutput || packing.has 't' || packing.has 'l'
  match packing.resultName? name, isKept with
  | none, false =>
    if !packing.has 'q' then
      packingMessage process false name
        (if packing.unpacks then ": unknown suffix -- ignored"
          else s!" already has {textOfRaw packing.ending} suffix -- unchanged")
    return if packing.unpacks then 2 else 0
  | result?, _ =>
    let result := result?.getD name
    if packing.has 'l' then listPacked process packing name node.bytes isFirst
    else if packing.unpacks then
      if isKept then unpackToOutput process packing name result node.bytes
      else unpackInPlace process packing name result node node.bytes
    else packTo process packing name result node

/-- Packs or unpacks what a name stands for, or all that is below it. -/
def packNamed (process : Process) (packing : Packing) (isFirst : Bool) (fuel : Nat)
    (name : List Char) : Step Nat := do
  let named (ending : String) : List Char := name ++ ending.toList
  let candidates := if packing.unpacks then
      [name, name ++ packing.ending, named ".gz", named ".z", named "-z", named ".Z"]
    else [name]
  let files := (← get).files
  let isThere (name : List Char) : Bool := (files.find (textOfRaw name) false).isOk
  let through := packing.toOutput || packing.has 'f'
  let chosen := match candidates.find? isThere with
    | some found => found
    | none => if packing.unpacks then name ++ packing.ending else name
  match files.find (textOfRaw chosen) with
  | .error refusal =>
    packingMessage process false chosen (": " ++ refusal.complaint)
    return 1
  | .ok (place, node) =>
    match node.content with
    | .directory =>
      match fuel, packing.has 'r' with
      | fuel + 1, true =>
        onEach ((files.entries place).map fun entry => joined chosen (rawOf entry.1))
          (packNamed process packing false fuel)
      | _, _ =>
        if !packing.has 'q' then
          packingMessage process false chosen " is a directory -- ignored"
        return 2
    | .file _ =>
      let isLink := match files.find (textOfRaw chosen) false with
        | .ok (_, found) => found.isLink
        | .error _ => false
      let others := files.links place - 1
      if isLink && !through then
        packingMessage process false chosen ": Too many levels of symbolic links"
        return 1
      if 0 < others && !through && !packing.has 'k' && !packing.has 't' && !packing.has 'l' then
        let words := if others = 1 then " other link" else " other links"
        packingMessage process false chosen s!" has {others}{words} -- file ignored"
        return 2
      packFile process packing chosen node isFirst
    | _ =>
      if packing.toOutput then packFile process packing chosen node isFirst
      else
        packingMessage process false chosen " is not a directory or a regular file - ignored"
        return 2

/-- Packs files, or unpacks them. -/
def gzip (unpacks toOutput : Bool) (process : Process) : Step Nat := do
  let table : OptionTable :=
    { plain := "acdfhklLnNqrtvV123456789", valued := "bS"
      words := [("ascii", 'a'), ("stdout", 'c'), ("to-stdout", 'c'), ("decompress", 'd'),
        ("uncompress", 'd'), ("force", 'f'), ("keep", 'k'), ("list", 'l'), ("no-name", 'n'),
        ("name", 'N'), ("quiet", 'q'), ("silent", 'q'), ("recursive", 'r'), ("suffix", 'S'),
        ("test", 't'), ("verbose", 'v'), ("fast", '1'), ("best", '9')] }
  let process := { process with name := "gzip".toList }
  match table.read (process.arguments.length + 1) process.arguments with
  | .error message =>
    process.complain message
    process.warn "Try `gzip --help' for more information.".toList
    return 1
  | .ok arguments =>
    let packing : Packing :=
      { arguments
        unpacks := unpacks || ['d', 't', 'l'].any arguments.has
        toOutput := toOutput || arguments.has 'c'
        ending := (arguments.value? 'S').getD ".gz".toList }
    if arguments.operands.isEmpty then
      if packing.has 'l' then
        listPacked process packing "stdin".toList (bytesOfRaw (← process.readInput)) true
      else packInput process packing
    else
      let statuses ← arguments.operands.zipIdx.mapM fun (name, i) =>
        if name = ['-'] then packInput process packing
        else packNamed process packing (i = 0) 64 name
      return if statuses.contains 1 then 1 else statuses.foldl max 0

end CheckedBuild.Machine.Tools
