import CheckedBuild.Machine.Tools.Format
import CheckedBuild.Machine.Tools.Modes
import CheckedBuild.Shell.Pattern
import CheckedBuild.Text.Calendar
import CheckedBuild.Text.Collation

/-!
# Listing files

Files are listed in an order, in one of several layouts, and with what is on record about them.
Directories among the operands are opened, unless they are to be listed themselves.
-/

namespace CheckedBuild.Machine.Tools

open Process

/-- Something to be listed. -/
structure Listed where
  name : List Char
  place : Name
  node : Node

/-- The part of a name from its last point on. -/
def extensionOf (name : List Char) : List Char :=
  if name.contains '.' then '.' :: (name.reverse.takeWhile (· ≠ '.')).reverse else []

/-- Whether one entry comes before another one in the order that options ask for. -/
def precedes (options : Arguments) (a b : Listed) : Bool :=
  let order := options.options.foldl (fun order (letter, value) =>
    if "tSXUvf".toList.contains letter then letter
    else if letter = '%' then
      match String.ofList value with
      | "time" => 't'
      | "size" => 'S'
      | "extension" => 'X'
      | "version" => 'v'
      | "none" => 'U'
      | _ => order
    else order) 'n'
  let byName := !decide (b.name < a.name)
  match order with
  | 't' =>
    if a.node.changed = b.node.changed then byName else b.node.changed < a.node.changed
  | 'S' => if a.node.size = b.node.size then byName else b.node.size < a.node.size
  | 'X' =>
    let (x, y) := (extensionOf a.name, extensionOf b.name)
    if x = y then byName else x < y
  | 'v' =>
    ((Text.Collation.byVersion a.name b.name).then
      (Text.Collation.compareBytes a.name b.name)) ≠ .gt
  | _ => byName

/-- Entries in the order that options ask for. -/
def ordered (options : Arguments) (entries : List Listed) : List Listed :=
  let sorted := if options.has 'U' || options.has 'f' then entries.reverse
    else entries.mergeSort (precedes options)
  let sorted := if options.has 'r' then sorted.reverse else sorted
  if options.has '<' then
    let (directories, others) := sorted.partition fun entry => entry.node.isDirectory
    directories ++ others
  else sorted

/-- What is in a directory, in order; names with a dot in front only if so asked for. -/
def listed (files : FileSystem) (options : Arguments) (directory : Name) : List Listed :=
  let matchesAny (letter : Char) (name : List Char) : Bool :=
    (options.values letter).any fun pattern =>
      Shell.doesMatch (pattern.map fun c => (c, false)) name
  let everything := options.has 'a' || options.has 'f'
  let entries := (files.entries directory).map fun (name, node) =>
    (⟨rawOf name, directory ++ [name], node⟩ : Listed)
  let shown := entries.filter fun entry =>
    let isHidden := entry.name.head? = some '.'
    (everything || options.has 'A' || !(isHidden || matchesAny '~' entry.name))
      && !matchesAny 'I' entry.name
      && !(options.has 'B' && entry.name.getLast? = some '~')
  let followed := shown.map fun entry =>
    if options.has 'L' then
      match files.find (textOfRaw (pathOf entry.place)) with
      | .ok (_, node) => { entry with node }
      | .error _ => entry
    else entry
  let dots : List Listed :=
    if everything then
      [(['.'], directory), (['.', '.'], directory.dropLast)].filterMap fun (name, place) =>
        (files.node? place).map fun node => ⟨name, place, node⟩
    else []
  ordered options (dots ++ followed)

/-- The mark that tells the kind of a node. -/
def kindMark (options : Arguments) (node : Node) : List Char :=
  let classifies := options.has 'F'
  let marksTypes := classifies || options.has '>'
  match node.letter with
  | 'd' => if marksTypes || options.has 'p' then ['/'] else []
  | 'l' => if marksTypes then ['@'] else []
  | 'p' => if marksTypes then ['|'] else []
  | _ => if classifies && node.isExecutable then ['*'] else []

/-- How many links lead to a name: a directory has one more for each directory in it. -/
def linkCount (files : FileSystem) (place : Name) (node : Node) : Nat :=
  if node.isDirectory then
    2 + ((files.entries place).filter fun entry => entry.2.isDirectory).length
  else files.links place

/-- How many blocks of 1024 bytes a node takes. -/
def blocksOf (node : Node) : Nat :=
  match node.content with
  | .link _ => 0
  | _ => (node.size + 4095) / 4096 * 4

/-- A number divided and rounded up. -/
def ceilDiv (n unit : Nat) : Nat := (n + unit - 1) / unit

/-- A number of bytes in the unit of its size, rounded up. -/
def humanSize (base : Nat) (bytes : Nat) : List Char :=
  let letters := if base = 1024 then "KMGTPE".toList else "kMGTPE".toList
  let rec go (unit : Nat) : List Char → List Char
    | [] => decimal (ceilDiv bytes unit)
    | letter :: rest =>
      let tenths := ceilDiv (bytes * 10) unit
      if tenths < 100 then decimal (tenths / 10) ++ '.' :: decimal (tenths % 10) ++ [letter]
      else if ceilDiv bytes unit < base || rest.isEmpty then
        decimal (ceilDiv bytes unit) ++ [letter]
      else go (unit * base) rest
  if bytes < base then decimal bytes else go base letters

/-- The value of an option for the unit of sizes. -/
def unitOf? (s : List Char) : Option Nat :=
  let digits := s.takeWhile Char.isDigit
  let count := (Text.natural? digits).getD 1
  match String.ofList (s.drop digits.length) with
  | "" => some count
  | "K" | "k" | "KiB" => some (count * 1024)
  | "M" | "MiB" => some (count * 1048576)
  | "G" | "GiB" => some (count * 1073741824)
  | "KB" | "kB" => some (count * 1000)
  | "MB" => some (count * 1000000)
  | "GB" => some (count * 1000000000)
  | _ => none

/-- The size of a node as it is listed. -/
def shownSize (options : Arguments) (node : Node) : List Char :=
  if options.has 'h' then humanSize 1024 node.size
  else if options.has '$' then humanSize 1000 node.size
  else
    match (options.value? '^').bind unitOf? with
    | some unit => decimal (ceilDiv node.size (max 1 unit))
    | none => decimal node.size

/-- A number of blocks as it is listed. -/
def shownBlocks (options : Arguments) (blocks : Nat) : List Char :=
  if options.has 'h' then humanSize 1024 (blocks * 1024)
  else if options.has '$' then humanSize 1000 (blocks * 1024)
  else
    match (options.value? '^').bind unitOf? with
    | some unit => decimal (ceilDiv (blocks * 1024) (max 1 unit))
    | none => decimal blocks

/-- A name as it is listed. -/
def quotedName (options : Arguments) (name : List Char) : List Char :=
  let escaped (inner : Char → Bool) : List Char := name.flatMap fun c =>
    if inner c then ['\\', c]
    else if c = '\n' then ['\\', 'n']
    else if c = '\t' then ['\\', 't']
    else if c.toNat < 32 || 127 ≤ c.toNat then
      let digits := Nat.toDigits 8 c.toNat
      '\\' :: List.replicate (3 - digits.length) '0' ++ digits
    else [c]
  if options.has 'Q' then '"' :: escaped (fun c => c = '"' || c = '\\') ++ ['"']
  else if options.has 'b' then escaped fun c => c = ' ' || c = '\\'
  else if options.has 'q' then
    name.map fun c => if c.toNat < 32 || 127 ≤ c.toNat then '?' else c
  else name

/-- The time of an entry as it is listed: far from the present the year counts more than the time
of day. -/
def shownTime (options : Arguments) (now time : Nat) : List Char :=
  let date := Text.Calendar.dateOf (time / 1000000000 : Nat) (time % 1000000000)
  let isRecent := time ≤ now && now < time + 15778476 * 1000000000
  let style := if options.has '&' then "full-iso".toList else (options.value? '@').getD []
  let style := if "posix-".toList.isPrefixOf style then [] else style
  match style with
  | '+' :: format =>
    match Text.pieces '\n' format with
    | [one] => date.written one
    | old :: recent :: _ => date.written (if isRecent then recent else old)
    | [] => []
  | style =>
    let format := match String.ofList style with
      | "full-iso" => "%Y-%m-%d %H:%M:%S.%N %z"
      | "long-iso" => "%Y-%m-%d %H:%M"
      | "iso" => if isRecent then "%m-%d %H:%M" else "%Y-%m-%d "
      | _ => if isRecent then "%b %e %H:%M" else "%b %e  %Y"
    date.written format.toList

/-- Texts on the right of columns as wide as the longest one. -/
def alignRight (texts : List (List Char)) : List (List Char) :=
  let width := texts.foldl (fun n (s : List Char) => max n s.length) 0
  texts.map fun s => ({ width } : Format.Field).text s

/-- The numbers in front of entries. -/
def numbersBefore (files : FileSystem) (options : Arguments) (entries : List Listed) :
    List (List Char) :=
  let blank := entries.map fun _ => ([] : List Char)
  let isAligned := !options.has 'm'
  let align (texts : List (List Char)) : List (List Char) :=
    (if isAligned then alignRight texts else texts).map (· ++ [' '])
  let nodes := if options.has 'i' then
      align (entries.map fun entry => decimal (((files.number? entry.place).getD 1) + 1000))
    else blank
  let blocks := if options.has 's' then
      align (entries.map fun entry => shownBlocks options (blocksOf entry.node))
    else blank
  (nodes.zip blocks).map fun (a, b) => a ++ b

/-- Whether options ask for lines that tell everything. -/
def isLong (options : Arguments) : Bool :=
  match (options.options.reverse.find? fun o => "lgon1CmxW&".toList.contains o.1).map (·.1) with
  | some 'W' => ["long".toList, "verbose".toList].contains ((options.value? 'W').getD [])
  | some letter => "lgon&".toList.contains letter
      || letter = '1' && options.options.any fun o => "lgon&".toList.contains o.1
  | none => false

/-- Lines that tell everything about entries. -/
def longLines (files : FileSystem) (options : Arguments) (entries : List Listed) : List Char :=
  let links := alignRight (entries.map fun entry =>
    decimal (linkCount files entry.place entry.node))
  let sizes := alignRight (entries.map fun entry => shownSize options entry.node)
  let user := if options.has 'n' then ['0'] else "root".toList
  let owner := if options.has 'g' then [] else ' ' :: user
  let group := if options.has 'o' || options.has 'G' then [] else ' ' :: user
  let rows := ((numbersBefore files options entries).zip (links.zip sizes)).zip entries
  rows.flatMap fun ((front, links, size), entry) =>
    let node := entry.node
    let shown := quotedName options entry.name
    let name := match node.content with
      | .link target =>
        let mark := match files.find (textOfRaw (pathOf entry.place)) with
          | .ok (_, node) => kindMark options node
          | .error _ => []
        shown ++ " -> ".toList ++ quotedName options (rawOf target) ++ mark
      | _ => shown ++ kindMark options node
    closed (front ++ node.letter :: modeLetters node.mode ++ ' ' :: links ++ owner ++ group
      ++ ' ' :: size ++ ' ' :: shownTime options files.now node.changed ++ ' ' :: name)

/-- Blanks and tabs that lead from one column to another one. -/
def indentation (tab fuel start stop : Nat) : List Char :=
  match fuel with
  | 0 => []
  | fuel + 1 =>
    if stop ≤ start then []
    else if tab ≠ 0 && (start + 1) / tab < stop / tab then
      '\t' :: indentation tab fuel (start + tab - start % tab) stop
    else ' ' :: indentation tab fuel (start + 1) stop

/-- The widths of columns into which so many texts are put, two blanks between them. -/
def columnWidths (across : Bool) (columns rows : Nat) (texts : List (List Char)) : List Nat :=
  (List.range columns).map fun column =>
    texts.zipIdx.foldl (fun width (s, i) =>
      let place := if across then i % columns else i / rows
      if place = column then
        max width (s.length + (if column + 1 = columns then 0 else 2))
      else width) 0

/-- Texts in as many columns as a line takes. -/
def inColumns (across : Bool) (tab line : Nat) (texts : List (List Char)) : List Char :=
  let count := texts.length
  let fits (columns : Nat) : Bool :=
    let rows := ceilDiv count columns
    (columnWidths across columns rows texts).foldl (· + ·) 0 < line || columns = 1
  let most := min count (max 1 (line / 3))
  let columns := ((List.range most).map (most - ·)).find? fits |>.getD 1
  let rows := ceilDiv count columns
  let widths := columnWidths across columns rows texts
  (List.range rows).flatMap fun row =>
    let places := (List.range columns).map fun column =>
      if across then row * columns + column else column * rows + row
    let cells := (places.filterMap fun i => texts[i]?).zip widths
    let (text, _, _) := cells.foldl (fun (text, column, start) (s, width) =>
      let front := indentation tab (start + 1) column start
      (text ++ front ++ s, start + s.length, start + width)) (([] : List Char), 0, 0)
    closed text

/-- Texts behind one another with commas between them, in lines of a length. -/
def inSequence (line : Nat) (texts : List (List Char)) : List Char :=
  let (text, _) := texts.zipIdx.foldl (fun (text, column) (s, i) =>
    if i = 0 then (s, s.length)
    else if column + 2 + s.length + (if i + 1 < texts.length then 1 else 0) < line then
      (text ++ ", ".toList ++ s, column + 2 + s.length)
    else (text ++ ",\n".toList ++ s, s.length)) (([] : List Char), 0)
  closed text

/-- Entries in the layout that options ask for. -/
def laidOut (files : FileSystem) (options : Arguments) (entries : List Listed) : List Char :=
  if isLong options then longLines files options entries
  else
    let texts := ((numbersBefore files options entries).zip entries).map fun (front, entry) =>
      front ++ quotedName options entry.name ++ kindMark options entry.node
    let line := ((options.value? 'w').bind Text.natural?).getD 80
    let tab := ((options.value? 'T').bind Text.natural?).getD 8
    let layout := (options.options.reverse.find? fun o => "1CmxW0".toList.contains o.1).map fun o =>
      if o.1 = 'W' then
        match String.ofList o.2 with
        | "vertical" => 'C'
        | "across" | "horizontal" => 'x'
        | "commas" => 'm'
        | _ => '1'
      else o.1
    if texts.isEmpty then []
    else
      match layout with
      | some 'C' => inColumns false tab line texts
      | some 'x' => inColumns true tab line texts
      | some 'm' => inSequence line texts
      | some '0' => texts.flatMap (· ++ ['\x00'])
      | _ => texts.flatMap closed

/-- Lists a directory; `heads` tells that its name comes before it. -/
def listDirectory (process : Process) (options : Arguments) (heads : Bool) (fuel : Nat)
    (first : Bool) (name : List Char) (place : Name) : Step Unit := do
  match fuel with
  | 0 => return
  | fuel + 1 =>
    let files := (← get).files
    if heads then
      process.say ((if first then [] else ['\n']) ++ quotedName options name ++ ":\n".toList)
    let entries := listed files options place
    if isLong options || options.has 's' then
      let total := entries.foldl (fun total entry => total + blocksOf entry.node) 0
      process.say (closed ("total ".toList ++ shownBlocks options total))
    process.say (laidOut files options entries)
    if options.has 'R' then
      entries.forM fun entry => do
        if entry.node.isDirectory && entry.name ≠ ['.'] && entry.name ≠ ['.', '.'] then
          listDirectory process options true fuel false (joined name entry.name) entry.place

/-- Lists files and what is in directories. -/
def ls (process : Process) : Step Nat :=
  process.withOptions
    { plain := "1aAdrpFRLHltSChsinogGmxbQqNXUvfkucB0Z", valued := "wTI"
      words := [("all", 'a'), ("almost-all", 'A'), ("directory", 'd'), ("reverse", 'r'),
        ("recursive", 'R'), ("classify", 'F'), ("size", 's'), ("inode", 'i'), ("sort", '%'),
        ("time-style", '@'), ("full-time", '&'), ("color", '='), ("human-readable", 'h'),
        ("si", '$'), ("block-size", '^'), ("group-directories-first", '<'), ("file-type", '>'),
        ("format", 'W'), ("ignore", 'I'), ("hide", '~'), ("ignore-backups", 'B'),
        ("dereference", 'L'), ("numeric-uid-gid", 'n'), ("no-group", 'G'), ("zero", '0'),
        ("quote-name", 'Q'), ("escape", 'b'), ("literal", 'N'), ("width", 'w'), ("tabsize", 'T'),
        ("hide-control-chars", 'q'), ("show-control-chars", '_'), ("time", ':'),
        ("quoting-style", ';'), ("indicator-style", ',')] } 2
    fun options => do
      let files := (← get).files
      let names := options.operands
      let isPlain := !(options.has 'd' || options.has 'F' || isLong options)
      let node (name : List Char) : Except Refusal (Name × Node) :=
        let path := textOfRaw name
        let itself := files.find path false
        if options.has 'L' || options.has 'H' then files.find path
        else if isPlain then
          match files.find path with
          | .ok (place, node) => if node.isDirectory then .ok (place, node) else itself
          | .error .notFound => itself
          | .error refusal => .error refusal
        else itself
      let status ← onEach names fun name => do
        match node name with
        | .ok _ => return 0
        | .error refusal =>
          let _ ← cannot process "access" name refusal
          return 2
      let found := (if names.isEmpty then [['.']] else names).filterMap fun name =>
        (node name).toOption.map fun (place, node) => (⟨name, place, node⟩ : Listed)
      let (directories, others) := (ordered options found).partition fun entry =>
        entry.node.isDirectory && !options.has 'd'
      if !others.isEmpty then
        process.say (laidOut files options others)
        if !directories.isEmpty then process.say ['\n']
      let heads := options.has 'R' || 1 < names.length
      directories.zipIdx.forM fun (entry, i) =>
        listDirectory process options heads nestingLimit (i = 0) entry.name entry.place
      return status

end CheckedBuild.Machine.Tools
