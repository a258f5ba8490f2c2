import CheckedBuild.Machine.Tools.Modes
import CheckedBuild.Machine.Tools.Output
import CheckedBuild.Selecting.Selection
import CheckedBuild.Shell.Pattern
import CheckedBuild.Text.Regular.Spelling

/-!
# Selecting lines by patterns

Patterns are regular expressions of the basic or the extended kind, or texts that stand for
themselves. The inputs are searched one after the other; what is shown of each one are its selected
lines, the parts of them that match, their number, or only its name.
-/

namespace CheckedBuild.Machine.Tools

open Process Text Selecting

/-- The options, those without a letter under a sign. -/
def grepTable : OptionTable :=
  { plain := "0123456789EFGHILPTUVabcchilnoqrRsuvwxyZz"
    valued := "ABCXDdefm+!%^&@#"
    words := [("basic-regexp", 'G'), ("extended-regexp", 'E'), ("fixed-regexp", 'F'),
      ("fixed-strings", 'F'), ("perl-regexp", 'P'), ("after-context", 'A'),
      ("before-context", 'B'), ("binary-files", '#'), ("binary", 'U'), ("byte-offset", 'b'),
      ("context", 'C'), ("color", '*'), ("colour", '*'), ("count", 'c'), ("devices", 'D'),
      ("directories", 'd'), ("exclude", '!'), ("exclude-from", '%'), ("exclude-dir", '^'),
      ("file", 'f'), ("files-with-matches", 'l'), ("files-without-match", 'L'),
      ("group-separator", '&'), ("help", '?'), ("include", '+'), ("ignore-case", 'i'),
      ("no-ignore-case", ':'), ("initial-tab", 'T'), ("label", '@'), ("line-buffered", ';'),
      ("line-number", 'n'), ("line-regexp", 'x'), ("max-count", 'm'), ("no-filename", 'h'),
      ("no-group-separator", '~'), ("no-messages", 's'), ("null", 'Z'), ("null-data", 'z'),
      ("only-matching", 'o'), ("quiet", 'q'), ("recursive", 'r'), ("dereference-recursive", 'R'),
      ("regexp", 'e'), ("invert-match", 'v'), ("silent", 'q'), ("text", 'a'), ("version", 'V'),
      ("with-filename", 'H'), ("word-regexp", 'w')] }

/-! ### Patterns -/

/-- Named sets of another spelling in the extended one. -/
def withNamedSets : List Char → List Char
  | '\\' :: 'd' :: rest => "[0-9]".toList ++ withNamedSets rest
  | '\\' :: 'D' :: rest => "[^0-9]".toList ++ withNamedSets rest
  | '\\' :: 'h' :: rest => "[ \t]".toList ++ withNamedSets rest
  | '\\' :: 't' :: rest => '\t' :: withNamedSets rest
  | '\\' :: c :: rest => '\\' :: c :: withNamedSets rest
  | '(' :: '?' :: ':' :: rest => '(' :: withNamedSets rest
  | c :: rest => c :: withNamedSets rest
  | [] => []

/-- A pattern, and where it has been found if that is in a file. -/
structure Pattern where
  text : List Char
  place : Option (List Char × Nat) := none

/-- The patterns that the options give, one for each line. -/
def patternsGiven (process : Process) (options : Arguments) :
    Step (Except (List Char × Refusal) (List Pattern)) := do
  options.options.foldlM (fun found (letter, value) => do
    match found, letter with
    | .error fault, _ => return .error fault
    | .ok patterns, 'e' =>
      return .ok (patterns ++ (pieces '\n' value).map fun text => { text })
    | .ok patterns, 'f' =>
      match ← process.openInput (some value) with
      | .error refusal => return .error (value, refusal)
      | .ok number =>
        let lines := bareLines (← readAll number)
        return .ok (patterns ++ lines.zipIdx.map fun (text, i) =>
          { text, place := some (value, i + 1) })
    | found, _ => return found) (.ok [])

/-- How the patterns of a kind are read. -/
def readPattern (kind : Char) (text : List Char) : Except Regular.Fault Regular.Spelled :=
  let extended : Regular.Dialect :=
    { bare := true, leading := .skipped, looseBounds := true, looseClosing := true }
  match kind with
  | 'F' => .ok ⟨Regular.literal text, [], false⟩
  | 'E' => extended.read text
  | 'P' => { extended with looseClosing := false }.read (withNamedSets text)
  | _ => Regular.Dialect.basic.read text

/-- A repetition as a remark about it shows it. -/
def shownSign (sign : Char) : List Char :=
  if sign = '\x7b' then "\x7b...\x7d".toList else [sign]

/-- The expressions of patterns, after the complaints about faults. -/
def expressionsFor (process : Process) (kind : Char) (patterns : List Pattern) :
    Step (Option (List Regular.Expression)) := do
  let read := patterns.map fun pattern => (pattern, readPattern kind pattern.text)
  let faulty := read.filterMap fun (pattern, spelled) => match spelled with
    | .error fault => some (pattern, fault)
    | .ok _ => none
  faulty.forM fun (pattern, fault) =>
    let place := match pattern.place with
      | some (name, line) => name ++ ':' :: decimal line ++ ": ".toList
      | none => []
    let message := if kind = 'P' && fault = .group then "missing closing parenthesis"
      else fault.message
    process.complain (place ++ message.toList)
  if !faulty.isEmpty then return none
  let spelled := read.filterMap fun (_, spelled) => spelled.toOption
  if spelled.any (·.isDoubtful) then
    process.complain Regular.doubt.toList
    return none
  if kind = 'E' then
    spelled.forM fun spelled => spelled.skipped.forM fun sign =>
      process.complain ("warning: ".toList ++ shownSign sign ++ " at start of expression".toList)
  return some (spelled.map (·.expression))

/-! ### What is shown -/

/-- How lines are shown. -/
structure Display where
  /-- The name of the input stands in front, followed by a sign or by a zero. -/
  named : Bool
  zeroAfterName : Bool
  numbered : Bool
  offsets : Bool
  /-- How wide numbers are, where what follows them is lined up. -/
  width : Option Nat
  onlyParts : Bool
  colored : Bool
  feed : Char
  gap : Option (List Char)

namespace Display

/-- A text in a color. -/
def paint (display : Display) (color : String) (s : List Char) : List Char :=
  if display.colored && !s.isEmpty then
    ("\x1b[" ++ color ++ "m\x1b[K").toList ++ s ++ "\x1b[m\x1b[K".toList
  else s

/-- The sign behind a name or a number. -/
def sign (display : Display) (isSelected : Bool) : List Char :=
  display.paint "36" [if isSelected then ':' else '-']

/-- The name of an input and what comes after it. -/
def name (display : Display) (name : List Char) (isSelected : Bool) : List Char :=
  if display.named then
    display.paint "35" name
      ++ if display.zeroAfterName then ['\x00'] else display.sign isSelected
  else []

/-- What stands in front of a line or a part of it. -/
def heading (display : Display) (input : List Char) (isSelected : Bool) (number offset : Nat)
    (isEmpty : Bool) : List Char :=
  let column (n : Nat) : List Char :=
    let digits := decimal n
    display.paint "32"
      (List.replicate (display.width.getD 0 - digits.length) ' ' ++ digits)
      ++ display.sign isSelected
  let tells := display.named || display.numbered || display.offsets
  display.name input isSelected
    ++ (if display.numbered then column number else [])
    ++ (if display.offsets then column offset else [])
    ++ (if display.width.isSome && tells && !isEmpty then ['\t'] else [])

/-- A line with the parts of it in a color. -/
def painted (display : Display) (line : Array Char) : Nat → List (Nat × Nat) → List Char
  | place, [] => (line.extract place line.size).toList
  | place, (first, last) :: rest =>
    (line.extract place first).toList
      ++ display.paint "01;31" (line.extract first last).toList
      ++ display.painted line last rest

/-- A line as it is shown. -/
def line (display : Display) (selection : Selection) (input : List Char) (isSelected : Bool)
    (number offset : Nat) (line : List Char) : List Char :=
  let matching := isSelected != selection.inverted
  let array := line.toArray
  let parts :=
    if matching && (display.onlyParts || display.colored) then
      selection.parts array (array.size + 1) 0
    else []
  if display.onlyParts then
    parts.flatMap fun (first, last) =>
      display.heading input isSelected number (offset + first) false
        ++ display.paint "01;31" (array.extract first last).toList ++ [display.feed]
  else
    display.heading input isSelected number offset line.isEmpty
      ++ display.painted array 0 parts ++ [display.feed]

/-- Items as they are shown; the offsets are those of the lines. -/
def items (display : Display) (selection : Selection) (input : List Char)
    (lines : Array (List Char × Nat)) (items : List Item) : List Char :=
  items.flatMap fun
    | .gap =>
      match display.gap with
      | some text => display.paint "36" text ++ ['\n']
      | none => []
    | .line i isSelected =>
      match lines[i]? with
      | some (text, offset) =>
        if display.onlyParts && !isSelected then []
        else display.line selection input isSelected (i + 1) offset text
      | none => []

end Display

/-- The lines of a text, which a character ends, with the places where they begin. -/
def placedLines (feed : Char) (s : List Char) : List (List Char × Nat) :=
  let parts := pieces feed s
  let lines := if parts.getLast? = some [] then parts.dropLast else parts
  (lines.foldl (fun (found, offset) line =>
    ((line, offset) :: found, offset + line.length + 1))
    (([] : List (List Char × Nat)), 0)).1.reverse

/-! ### Inputs -/

/-- Which files below directories are searched. -/
structure Filter where
  included : List (List Char)
  excluded : List (List Char)
  excludedDirectories : List (List Char)

/-- Whether a pattern matches a path or the end of it behind a slash. -/
def matchesPath (pattern path : List Char) : Bool :=
  ('/' :: path).zipIdx.any fun (before, i) =>
    before = '/' && Shell.matchesPattern false pattern (path.drop i)

/-- Whether a file is searched. -/
def Filter.admits (filter : Filter) (path : List Char) : Bool :=
  (filter.included.isEmpty || filter.included.any fun pattern => matchesPath pattern path)
    && !filter.excluded.any fun pattern => matchesPath pattern path

/-- Whether a directory is searched. -/
def Filter.enters (filter : Filter) (path : List Char) : Bool :=
  !filter.excludedDirectories.any fun pattern =>
    matchesPath (withoutEndSlashes pattern) (withoutEndSlashes path)

/-- The files below a directory, in order; links count only if they are followed. -/
def filesBelow (files : FileSystem) (filter : Filter) (follows : Bool) (fuel : Nat)
    (path : List Char) (place : Name) : List (List Char) :=
  match fuel with
  | 0 => []
  | fuel + 1 =>
    (((files.entries place).map (·.1)).mergeSort fun a b => a ≤ b).flatMap fun entry =>
      let below := if path.isEmpty then rawOf entry else joined path (rawOf entry)
      match files.find (textOfRaw below) follows with
      | .error _ => if follows then [below] else []
      | .ok (place, node) =>
        if node.isDirectory then
          if filter.enters below then filesBelow files filter follows fuel below place else []
        else if node.isRegular && filter.admits below then [below]
        else []

/-- An input to be searched, and whether a directory led to it. -/
abbrev Searched := List Char × Bool

/-- What an operand leads to. -/
def searchedFor (files : FileSystem) (options : Arguments) (filter : Filter) (recurses : Bool)
    (name : List Char) : List Searched :=
  if name = ['-'] then [(name, false)]
  else
    match files.find (textOfRaw name) with
    | .error _ => if filter.admits name then [(name, false)] else []
    | .ok (place, node) =>
      if !node.isDirectory then if filter.admits name then [(name, false)] else []
      else if recurses then
        if filter.enters name then
          (filesBelow files filter (options.has 'R') nestingLimit name place).map fun path =>
            (path, true)
        else []
      else if options.value? 'd' = some "skip".toList then []
      else [(name, false)]

/-- Whether the options ask for directories to be searched. -/
def searchesBelow (options : Arguments) : Bool :=
  options.has 'r' || options.has 'R' || options.value? 'd' = some "recurse".toList

/-! ### Searching -/

/-- What has come of the search so far. -/
structure Search where
  isSelected : Bool := false
  hasFailed : Bool := false
  hasShown : Bool := false

/-- What the search is about. -/
structure Task where
  process : Process
  options : Arguments
  selection : Selection
  limit : Option Nat
  context : Context
  colored : Bool
  named : Bool

namespace Task

/-- Says that an input cannot be searched, unless that is unwanted. -/
def blame (task : Task) (name message : List Char) : Step Unit :=
  if task.options.has 's' then pure () else task.process.complain (name ++ ": ".toList ++ message)

/-- Whether an input is what is written to. -/
def isOutput (task : Task) (number : Nat) : Step Bool := do
  let kernel ← get
  match (task.process.descriptors.lookup 1).map kernel.stream, kernel.stream number with
  | some (.file output), .file input => return input.number = output.number && kernel.isFile number
  | _, _ => return false

/-- How an input of some size is shown. -/
def display (task : Task) (size : Option Nat) (isBelow : Bool) : Display :=
  let has := task.options.has
  let top := match size with
    | some size => size + if has 'n' then 1 else 0
    | none => Nat.pow 2 63 - 1
  { named := task.named || (isBelow && !has 'h'), zeroAfterName := has 'Z', numbered := has 'n'
    offsets := has 'b'
    width := if has 'T' then some (decimal top).length else none
    onlyParts := has 'o', colored := task.colored
    feed := if has 'z' then '\x00' else '\n'
    gap := match task.options.lastOf? "&~" with
      | some ('&', text) => some text
      | some _ => none
      | none => some "--".toList }

/-- Reads a stream until enough of its lines are selected; `before` are the pieces so far, the last
one first. -/
def readEnough (task : Task) (fuel number needed : Nat) (before : List (List Char)) :
    Step (List Char) := do
  let text := before.reverse.flatten
  match fuel with
  | 0 => return text
  | fuel + 1 =>
    let bytes ← takeSome number
    if bytes.isEmpty then return text
    let piece := rawOfBytes bytes
    let (whole, tail) := splitAfterLast '\n' piece
    let lines := bareLines (text ++ whole)
    let count := lines.countP fun line => task.selection.selects line.toArray
    if needed ≤ count then return text ++ piece
    readEnough task fuel number needed [text ++ whole ++ tail]

/-- How far a stream has been searched that is shown as it comes. -/
structure Passed where
  lines : Nat := 0
  offset : Nat := 0
  selected : Nat := 0


/-- Searches some more lines; the result is what is shown of them. -/
def searchLines (task : Task) (display : Display) (name : List Char) (passed : Passed)
    (lines : List (List Char)) : List Char × Passed :=
  let (shown, passed) := lines.foldl (fun ((shown, passed) : List (List Char) × Passed) line =>
    let isSelected := !task.limit.any (· ≤ passed.selected) && task.selection.selects line.toArray
    let text :=
      if isSelected then
        display.line task.selection name true (passed.lines + 1) passed.offset line
      else []
    (text :: shown,
      { lines := passed.lines + 1, offset := passed.offset + line.length + 1
        selected := passed.selected + if isSelected then 1 else 0 })) ([], passed)
  (shown.reverse.flatten, passed)

/-- Searches a stream and shows its lines as they come, until enough have been selected. -/
def searchPieces (task : Task) (display : Display) (name : List Char) (fuel number : Nat)
    (before : List Char) (passed : Passed) : Step Passed := do
  match fuel with
  | 0 => return passed
  | fuel + 1 =>
    yieldTurn
    let bytes ← takeSome number
    let (whole, tail) := splitAfterLast '\n' (before ++ rawOfBytes bytes)
    let isLast := bytes.isEmpty
    let (shown, passed) :=
      task.searchLines display name passed (bareLines (if isLast then whole ++ tail else whole))
    task.process.print shown
    if task.options.has ';' then task.process.flush
    if isLast || task.limit.any (· ≤ passed.selected) then return passed
    searchPieces task display name fuel number tail passed

/-- Whether lines are shown as they come out of a stream. -/
def isStreaming (task : Task) : Bool :=
  ['q', 'l', 'L', 'c', 'z'].all (!task.options.has ·) && !task.context.isGapped

/-- Searches an input that has been opened. -/
def searchStream (task : Task) (search : Search) (name : List Char) (isBelow : Bool)
    (number : Nat) : Step Search := do
  let has := task.options.has
  let isFile := (← get).isFile number
  let first ← if isFile then pure [] else rawOfBytes <$> takeSome number
  if !isFile && !first.contains '\x00' && task.isStreaming then
    modify fun kernel : Kernel => kernel.unread number (bytesOfRaw first)
    let passed ← task.searchPieces (task.display none isBelow) name pieceLimit number [] {}
    let isSelected := 0 < passed.selected
    return { search with
      isSelected := search.isSelected || isSelected, hasShown := search.hasShown || isSelected }
  let needed? := if has 'q' || has 'l' || has 'L' then some 1 else task.limit
  let text ← match needed? with
    | some needed =>
      if isFile then readAll number
      else
        modify fun kernel : Kernel => kernel.unread number (bytesOfRaw first)
        task.readEnough pieceLimit number needed []
    | none => (first ++ ·) <$> readAll number
  let display := task.display (if isFile then some text.length else none) isBelow
  let lines := placedLines display.feed text
  let marks := marksOf task.limit (lines.map fun line => task.selection.selects line.1.toArray)
  let count := marks.count .selected
  let isBinary := text.contains '\x00' && !has 'z'
  let policy := match task.options.lastOf? "aI#" with
    | some ('a', _) => "text"
    | some ('I', _) => "without-match"
    | some (_, value) => String.ofList value
    | none => "binary"
  if isBinary && policy = "without-match" && 0 < count then
    return search
  -- what follows the last line that counts is left to others
  let afterLast := (lines.zip marks).foldl (fun place (line, mark) =>
    if mark = .selected then line.2 + line.1.length + 1 else place) 0
  if isFile && task.limit.any (· ≤ count) && !has 'q' && !has 'l' && !has 'L' then
    modify fun kernel : Kernel => kernel.unread number (bytesOfRaw (text.drop afterLast))
  let found := { search with isSelected := search.isSelected || 0 < count }
  let namedLine := display.paint "35" name ++ [if has 'Z' then '\x00' else '\n']
  if has 'q' then return found
  if has 'l' || has 'L' then
    if has 'l' && 0 < count || !has 'l' && count = 0 then task.process.print namedLine
    return found
  if has 'c' then
    task.process.print (display.name name true ++ decimal count ++ ['\n'])
    return found
  if isBinary && policy ≠ "text" then
    if 0 < count then
      task.process.complain (name ++ ": binary file matches".toList)
    return found
  let items := task.context.items search.hasShown marks
  task.process.print (display.items task.selection name lines.toArray items)
  return { found with hasShown := search.hasShown || 0 < count }

/-- Searches an input. -/
def searchInput (task : Task) (search : Search) (searched : Searched) : Step Search := do
  let (path, isBelow) := searched
  if task.options.has 'q' && search.isSelected then return search
  let name := if path = ['-'] then
      (task.options.value? '@').getD "(standard input)".toList
    else path
  match ← task.process.openInput (some path) with
  | .error refusal =>
    task.blame name refusal.complaint.toList
    return { search with hasFailed := true }
  | .ok number =>
    let shows := ['q', 'l', 'L', 'c'].all (!task.options.has ·)
    if shows && !task.limit.any (· ≤ 1) && (← task.isOutput number) then
      task.blame name "input file is also the output".toList
      return { search with hasFailed := true }
    task.searchStream search name isBelow number

/-- Searches inputs one after the other. -/
def run (task : Task) (inputs : List Searched) : Step Nat := do
  let search ← inputs.foldlM task.searchInput {}
  return if search.hasFailed && !(task.options.has 'q' && search.isSelected) then 2
    else if search.isSelected then 0 else 1

end Task

/-- Says how the tool is used. -/
def grepUsage (process : Process) : Step Nat := do
  process.warn "Usage: grep [OPTION]... PATTERNS [FILE]...".toList
  process.warn "Try 'grep --help' for more information.".toList
  return 2

/-- The number of lines that a value asks for. -/
def contextLength? (s : List Char) : Option Nat :=
  Text.natural? (if s.head? = some '+' then s.drop 1 else s)

/-- The first value that does not make sense, in the words that the tool has for it. -/
def grepFault? (options : Arguments) : Option (List Char) :=
  let kinds := (options.options.map (·.1)).filter fun c => "EFGP".toList.contains c
  let isNumber (s : List Char) : Bool :=
    (Text.natural? (if s.head? = some '-' || s.head? = some '+' then s.drop 1 else s)).isSome
  let perOption := options.options.findSome? fun (letter, value) =>
    if "ABC".toList.contains letter then
      if (contextLength? value).isSome then none
      else some (value ++ ": invalid context length argument".toList)
    else if letter = 'm' then if isNumber value then none else some "invalid max count".toList
    else if letter = 'D' then
      if ["read".toList, "skip".toList].contains value then none
      else some "unknown devices method".toList
    else if letter = '#' then
      if ["binary", "text", "without-match"].any (·.toList == value) then none
      else some "unknown binary-files type".toList
    else if letter = 'X' then some ("invalid matcher ".toList ++ value)
    else none
  if 1 < kinds.eraseDups.length then some "conflicting matchers specified".toList else perOption

/-- The value of the last option for an amount of lines around selected ones, where digits alone
are one, too. -/
def contextValue? (options : Arguments) (letter : Char) : Option Nat :=
  let digits := options.options.filter fun o => o.1.isDigit
  let shared := match (options.options.filter fun o => o.1 = 'C' || o.1.isDigit).getLast? with
    | some ('C', value) => contextLength? value
    | some _ => Text.natural? (digits.map (·.1))
    | none => none
  (options.value? letter).bind contextLength? <|> shared

/-- Searches inputs for patterns, of which the first operand may be one. -/
def grepWith (process : Process) (options : Arguments) : Step Nat := do
  let kind := ((options.lastOf? "EFGP").map (·.1)).getD 'G'
  let (patterns, operands) ← match options.has 'e' || options.has 'f', options.operands with
    | true, operands => pure (← patternsGiven process options, operands)
    | false, first :: rest =>
      pure (.ok ((pieces '\n' first).map fun text => ({ text } : Pattern)), rest)
    | false, [] => return ← grepUsage process
  match patterns with
  | .error (name, refusal) =>
    process.complain (name ++ ": ".toList ++ refusal.complaint.toList)
    return 2
  | .ok patterns =>
    match ← expressionsFor process kind patterns with
    | none => return 2
    | some expressions =>
      let selection : Selection :=
        { expressions, folds := (options.lastOf? "iy:").any (·.1 != ':'), words := options.has 'w'
          whole := options.has 'x', inverted := options.has 'v' }
      let limit := (options.value? 'm').bind Text.natural?
      if limit = some 0 && !options.has 'L' then return 1
      let before := contextValue? options 'B'
      let after := contextValue? options 'A'
      let recurses := searchesBelow options
      let listed ← (options.values '%').flatMapM fun name => do
        match ← process.openFile name with
        | .ok number => return bareLines (← readAll number)
        | .error _ => return []
      let filter : Filter :=
        ⟨options.values '+', options.values '!' ++ listed, options.values '^'⟩
      let files := (← get).files
      let inputs :=
        if operands.isEmpty then
          if recurses then
            (filesBelow files filter (options.has 'R') nestingLimit [] files.workingDirectory).map
              fun path => (path, true)
          else [(['-'], false)]
        else operands.flatMap (searchedFor files options filter recurses)
      let naming := (options.lastOf? "hH").map (·.1)
      let color := (options.options.reverse.find? fun o => o.1 = '*').map (·.2)
      let task : Task :=
        { process, options, selection, limit
          context := ⟨before.getD 0, after.getD 0, before.isSome || after.isSome⟩
          colored := color.any fun value =>
            ["always", "yes", "force"].any (·.toList == value)
          named := naming = some 'H' || (1 < operands.length && naming ≠ some 'h') }
      task.run inputs

/-- Shows the selected lines of its inputs, or what else is asked for. -/
def grep (process : Process) : Step Nat := do
  -- two further names stand for options
  let kind := match String.ofList process.shortName with
    | "egrep" => ["-E".toList]
    | "fgrep" => ["-F".toList]
    | _ => []
  let name := if kind.isEmpty then process.name else "grep".toList
  let process := { process with name := "grep".toList, arguments := kind ++ process.arguments }
  match grepTable.read (process.arguments.length + 1) process.arguments with
  | .error message =>
    let called : Process := { process with name }
    called.complain message
    grepUsage process
  | .ok options =>
    if options.has 'V' then
      process.say "grep (GNU grep) 3.11\n".toList
      return 0
    match grepFault? options with
    | some message =>
      process.complain message
      return 2
    | none =>
      match options.value? 'd' with
      | some action =>
        if ["read", "recurse", "skip"].all (·.toList != action) then
          process.complain ("invalid argument ".toList ++ marked action
            ++ " for '--directories'\nValid arguments are:\n  - 'read'\n  - 'recurse'\n  - 'skip'".toList)
          let _ ← grepUsage process
          return 1
        grepWith process options
      | none => grepWith process options

end CheckedBuild.Machine.Tools
