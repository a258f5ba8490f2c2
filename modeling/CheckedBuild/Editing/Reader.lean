import CheckedBuild.Editing.Script
import CheckedBuild.Text.Pieces
import CheckedBuild.Text.Regular.Spelling

/-!
# Reading editing scripts

A script has parts, which are arguments or files. Commands stand on lines of their own or behind
semicolons. What a command takes depends on its letter: a label, a text up to the end of a line,
the name of a file, or texts between a delimiter of one's choice. A block and the text of a command
may go on in the next part.
-/

namespace CheckedBuild.Editing

open Text

/-- How scripts are spelled. -/
structure Spelling where
  extended : Bool := false
  /-- What ends a line of the inputs. -/
  feed : Char := '\n'
  /-- Commands may neither run anything nor read or write files. -/
  isConfined : Bool := false

/-- A part of a script. -/
structure Part where
  origin : Origin
  text : List Char

/-- What has been read and what is left to read. -/
structure Reading where
  spelling : Spelling
  part : Part
  rest : List Char
  commands : Array Command := #[]
  /-- The blocks that are open, with the parts and the lines that they begin in. -/
  blocks : List (Nat × Origin × Nat) := []
  /-- The text of the last command goes on in the next part. -/
  isUnfinished : Bool := false
  isSilent : Bool := false

/-- Steps of a reader. -/
abbrev Reader := StateT Reading (Except Fault)

/-- How many characters of the part have been read. -/
def Reading.count (reading : Reading) : Nat := reading.part.text.length - reading.rest.length

/-- The line of the part that is being read. -/
def Reading.line (reading : Reading) : Nat :=
  (reading.part.text.take reading.count).count '\n' + 1

/-- The place that complaints name. -/
def Reading.place (reading : Reading) : Nat :=
  match reading.part.origin with
  | .argument _ => reading.count
  | .file _ => reading.line

/-- Ends the reading with a fault where the reader stands. -/
def failHere {α : Type} (reason : String) : Reader α := do
  let reading ← get
  throw (.spelling reading.part.origin reading.place reason)

/-- The next character, which is taken. -/
def takeChar : Reader (Option Char) :=
  modifyGet fun reading => (reading.rest.head?, { reading with rest := reading.rest.tail })

/-- The next character. -/
def peek : Reader (Option Char) := return (← get).rest.head?

/-- Takes the characters that satisfy a condition. -/
def takeWhile (p : Char → Bool) : Reader (List Char) :=
  modifyGet fun reading =>
    (reading.rest.takeWhile p, { reading with rest := reading.rest.dropWhile p })

/-- Whether a character is white space. -/
def isSpace (c : Char) : Bool := c = ' ' || ('\t' ≤ c && c ≤ '\r')

/-- Whether a character is a blank inside of a line. -/
def isBlank (c : Char) : Bool := c = ' ' || c = '\t'

/-- Skips blanks. -/
def skipBlanks : Reader Unit := do
  let _ ← takeWhile isBlank

/-- Takes a number. -/
def takeNumber : Reader Nat := do
  let digits ← takeWhile Char.isDigit
  return digits.foldl (fun n c => 10 * n + (c.toNat - 48)) 0

/-! ### Escapes -/

/-- The value of a digit up to a base. -/
def digit? (base : Nat) (c : Char) : Option Nat :=
  let value :=
    if c.isDigit then c.toNat - 48
    else if 'a' ≤ c && c ≤ 'f' then c.toNat - 87
    else if 'A' ≤ c && c ≤ 'F' then c.toNat - 55
    else base
  if value < base then some value else none

/-- The character whose number is written with at most so many digits, and what comes after
them. -/
def numbered? (base most : Nat) (s : List Char) : Option (Char × List Char) :=
  let digits := (s.take most).takeWhile fun c => (digit? base c).isSome
  if digits.isEmpty then none
  else
    let value := digits.foldl (fun n c => base * n + (digit? base c).getD 0) 0
    some (Char.ofNat (value % 256), s.drop digits.length)

/-- The character that letters after a backslash stand for, and what comes after them. -/
def control? : List Char → Option (Char × List Char)
  | 'a' :: rest => some ('\x07', rest)
  | 'f' :: rest => some ('\x0c', rest)
  | 'n' :: rest => some ('\n', rest)
  | 'r' :: rest => some ('\r', rest)
  | 't' :: rest => some ('\t', rest)
  | 'v' :: rest => some ('\x0b', rest)
  | 'c' :: '\\' :: '\\' :: rest => some ('\x1c', rest)
  | 'c' :: c :: rest => some (Char.ofNat (c.toUpper.toNat ^^^ 64), rest)
  | 'd' :: rest => numbered? 10 3 rest
  | 'o' :: rest => numbered? 8 3 rest
  | 'x' :: rest => numbered? 16 2 rest
  | _ => none

/-- A pattern with its control characters in the place of what stands for them. -/
def withControls (fuel : Nat) (s : List Char) : List Char :=
  match fuel, s with
  | fuel + 1, '\\' :: rest =>
    match rest with
    | 'n' :: _ => '\\' :: 'n' :: withControls fuel rest.tail
    | _ =>
      match control? rest with
      | some (c, rest) => c :: withControls fuel rest
      | none => '\\' :: (rest.take 1 ++ withControls fuel (rest.drop 1))
  | fuel + 1, c :: rest => c :: withControls fuel rest
  | _, _ => []

/-- A text without the backslashes that keep characters. -/
def unescaped (fuel : Nat) (s : List Char) : List Char :=
  match fuel, s with
  | fuel + 1, '\\' :: rest =>
    match control? rest with
    | some (c, rest) => c :: unescaped fuel rest
    | none => rest.take 1 ++ unescaped fuel (rest.drop 1)
  | fuel + 1, c :: rest => c :: unescaped fuel rest
  | _, _ => []

/-! ### Delimiters -/

/-- Backslashes with the letter for a line feed become one. -/
def withFeeds : List Char → List Char
  | '\\' :: 'n' :: rest => '\n' :: withFeeds rest
  | c :: rest => c :: withFeeds rest
  | [] => []

/-- How many characters of a text belong to a set in brackets that has been opened. -/
def bracketLength (s : List Char) : Nat :=
  let marks := if s.head? = some '^' then 1 else 0
  let rest := s.drop marks
  let first := if rest.head? = some ']' then 1 else 0
  let rec inside (fuel : Nat) (s : List Char) : Nat :=
    match fuel, s with
    | fuel + 1, '[' :: ':' :: rest =>
      let name := rest.takeWhile (· ≠ ':')
      if (rest.drop name.length).take 2 = [':', ']'] then
        name.length + 4 + inside fuel (rest.drop (name.length + 2))
      else 1 + inside fuel (':' :: rest)
    | _, ']' :: _ => 1
    | fuel + 1, _ :: rest => 1 + inside fuel rest
    | _, _ => 0
  marks + first + inside s.length (rest.drop first)

/-- The text up to a delimiter, if there is one, and what comes after it. The delimiter loses its
backslash, and in a pattern the letter for a line feed becomes one. A text does not go on in the
next line unless a backslash keeps the line feed, or what is put in the place of a match has
one. -/
def untilDelimiter (delimiter : Char) (inPattern : Bool) (fuel : Nat) (s : List Char) :
    Option (List Char) × List Char :=
  let join (piece : List Char) (found : Option (List Char) × List Char) :
      Option (List Char) × List Char :=
    (found.1.map (piece ++ ·), found.2)
  match fuel, s with
  | fuel + 1, c :: rest =>
    if c = '\n' then (none, s)
    else if c = delimiter then (some [], rest)
    else
      match c, rest with
      | '\\', d :: rest =>
        let piece :=
          if d = delimiter then (if d = '&' && !inPattern then ['\\', d] else [d])
          else if d = 'n' && inPattern then ['\n']
          else if d = '\n' then [d]
          else ['\\', d]
        join piece (untilDelimiter delimiter inPattern fuel rest)
      | '[', rest =>
        if !inPattern then join [c] (untilDelimiter delimiter inPattern fuel rest)
        else
          let length := bracketLength rest
          join (c :: withFeeds (rest.take length))
            (untilDelimiter delimiter inPattern fuel (rest.drop length))
      | _, rest => join [c] (untilDelimiter delimiter inPattern fuel rest)
  | _, _ => (none, [])

/-- Takes the text up to a delimiter; without one the reader ends with a fault. -/
def takeDelimited (delimiter : Char) (inPattern : Bool) (reason : String) :
    Reader (List Char) := do
  let rest := (← get).rest
  let (found?, rest) := untilDelimiter delimiter inPattern (rest.length + 1) rest
  modify fun reading => { reading with rest }
  match found? with
  | some s => return s
  | none => failHere reason

/-- The pattern that a text spells; it may be about each line of a text on its own. -/
def patternOf (s : List Char) (folds byLines : Bool) : Reader Pattern := do
  if s.isEmpty then
    if folds || byLines then failHere "cannot specify modifiers on empty regexp"
    return none
  let plain : Regular.Dialect :=
    if (← get).spelling.extended then .extended
    else { Regular.Dialect.basic with stacked := false }
  let atLines := byLines && (← get).spelling.feed = '\n'
  match { plain with byLines, atLines }.read (withControls s.length s) with
  | .ok spelled =>
    if spelled.isDoubtful then throw (.grave Regular.doubt.toList)
    return some (spelled.expression, folds)
  | .error fault => failHere fault.message

/-! ### Addresses -/

/-- Takes the letters that may follow a pattern. -/
def takeModifiers (fuel : Nat) (folds byLines : Bool) : Reader (Bool × Bool) := do
  match fuel with
  | 0 => return (folds, byLines)
  | fuel + 1 =>
    skipBlanks
    match ← peek with
    | some 'I' =>
      let _ ← takeChar
      takeModifiers fuel true byLines
    | some 'M' =>
      let _ ← takeChar
      takeModifiers fuel folds true
    | _ => return (folds, byLines)

/-- Takes an address. -/
def takeAddress : Reader (Option Address) := do
  match ← peek with
  | some '$' =>
    let _ ← takeChar
    return some .last
  | some c =>
    if c.isDigit then
      let first ← takeNumber
      skipBlanks
      if (← peek) ≠ some '~' then return some (.line first)
      let _ ← takeChar
      skipBlanks
      let distance ← takeNumber
      return some (if distance = 0 then .line first else .step first distance)
    if c ≠ '/' && c ≠ '\\' then return none
    let _ ← takeChar
    let delimiter ← if c = '/' then pure (some c) else takeChar
    let reason := "unterminated address regex"
    let s ← match delimiter with
      | some delimiter => takeDelimited delimiter true reason
      | none => failHere reason
    let (folds, byLines) ← takeModifiers (← get).rest.length false false
    return some (.pattern (← patternOf s folds byLines))
  | none => return none

/-- Takes the end of a range of lines. -/
def takeBound : Reader Bound := do
  skipBlanks
  match ← peek with
  | some '+' =>
    let _ ← takeChar
    skipBlanks
    return .after (← takeNumber)
  | some '~' =>
    let _ ← takeChar
    skipBlanks
    return .multiple (← takeNumber)
  | _ =>
    match ← takeAddress with
    | some address => return .address address
    | none =>
      let _ ← takeChar
      failHere "unexpected \x60,'"

/-- Takes the addresses of a command. -/
def takeSelector : Reader Selector := do
  match ← peek with
  | some '+' | some '~' =>
    let _ ← takeChar
    skipBlanks
    let _ ← takeNumber
    failHere "invalid usage of +N or ~N as first address"
  | _ => pure ()
  let first ← takeAddress
  if first.isSome then skipBlanks
  let bound ←
    if first.isSome && (← peek) = some ',' then
      let _ ← takeChar
      let bound ← takeBound
      skipBlanks
      pure (some bound)
    else pure none
  match first, bound with
  | some (.line 0), some (.address (.pattern _)) => pure ()
  | some (.line 0), _ =>
    let _ ← takeChar
    failHere "invalid usage of line address 0"
  | _, _ => pure ()
  if (← peek) ≠ some '!' then return { first, bound }
  let _ ← takeChar
  skipBlanks
  if (← peek) = some '!' then
    let _ ← takeChar
    failHere "multiple \x60!'s"
  return { first, bound, negated := true }

/-! ### What belongs to commands -/

/-- Takes what may stand after a command. -/
def takeEnd : Reader Unit := do
  skipBlanks
  match ← peek with
  | none | some '\x7d' | some '#' => return
  | some c =>
    let _ ← takeChar
    if c ≠ '\n' && c ≠ ';' then failHere "extra characters after command"

/-- Takes a label. -/
def takeLabel : Reader (List Char) := do
  skipBlanks
  takeWhile fun c => !isSpace c && c ≠ ';' && c ≠ '\x7d' && c ≠ '#'

/-- The text of a command up to the end of its last line with its backslashes, and what comes after
it; nothing comes after it if it goes on in the next part. -/
def textOf : List Char → List Char × Option (List Char)
  | [] => ([], some [])
  | ['\\'] => ([], none)
  | '\\' :: c :: rest =>
    let (more, after) := textOf rest
    ('\\' :: c :: more, after)
  | '\n' :: rest => ([], some rest)
  | c :: rest =>
    let (more, after) := textOf rest
    (c :: more, after)

/-- Takes the lines of a text. -/
def takeLines : Reader (List Char) := do
  let (s, after) := textOf (← get).rest
  modify fun reading =>
    { reading with rest := after.getD [], isUnfinished := after.isNone }
  return unescaped s.length s ++ [(← get).spelling.feed]

/-- Takes the text of a command. -/
def takeText : Reader (List Char) := do
  skipBlanks
  match (← get).rest with
  | [] => failHere "expected \\ after \x60a', \x60c' or \x60i'"
  | ['\\'] =>
    modify fun reading => { reading with rest := [], isUnfinished := true }
    return []
  | '\\' :: '\n' :: rest | '\\' :: rest =>
    modify fun reading => { reading with rest }
    takeLines
  | _ => takeLines

/-- Fails where a command may not touch files or run anything. -/
def refuseConfined : Reader Unit := do
  if (← get).spelling.isConfined then failHere "e/r/w commands disabled in sandbox mode"

/-- Takes the name of a file. -/
def takeFile : Reader (List Char) := do
  refuseConfined
  skipBlanks
  let name ← takeWhile (· ≠ '\n')
  let _ ← takeChar
  if name.isEmpty then failHere "missing filename in r/R/w/W commands"
  return name

/-- The pieces of what replaces a match. -/
def piecesOf (fuel : Nat) (s : List Char) : List Piece :=
  match fuel, s with
  | fuel + 1, '&' :: rest => .group 0 :: piecesOf fuel rest
  | fuel + 1, '\\' :: c :: rest =>
    if c.isDigit then .group (c.toNat - 48) :: piecesOf fuel rest
    else
      match c with
      | 'U' => .case .upper false :: piecesOf fuel rest
      | 'L' => .case .lower false :: piecesOf fuel rest
      | 'E' => .case .kept false :: piecesOf fuel rest
      | 'u' => .case .upper true :: piecesOf fuel rest
      | 'l' => .case .lower true :: piecesOf fuel rest
      | c =>
        match control? (c :: rest) with
        | some (c, rest) => .text [c] :: piecesOf fuel rest
        | none => .text [c] :: piecesOf fuel rest
  | fuel + 1, c :: rest => .text [c] :: piecesOf fuel rest
  | _, _ => []

/-- How many groups an expression has. -/
def groupCount : Regular.Expression → Nat
  | .group _ inside => groupCount inside + 1
  | .sequence first second | .either first second => groupCount first + groupCount second
  | .repeated inside _ _ => groupCount inside
  | _ => 0

/-- The flags of a substitution that are about its pattern. -/
structure PatternFlags where
  folds : Bool := false
  byLines : Bool := false

/-- Takes the flags of a substitution. -/
def takeFlags (fuel : Nat) (substitution : Substitution) (flags : PatternFlags) :
    Reader (Substitution × PatternFlags) := do
  match fuel with
  | 0 => return (substitution, flags)
  | fuel + 1 =>
    match ← peek with
    | none | some '\x7d' | some '#' => return (substitution, flags)
    | some c =>
      if c.isDigit then
        if substitution.start.isSome then
          let _ ← takeChar
          failHere "multiple number options to \x60s' command"
        let start ← takeNumber
        if start = 0 then failHere "number option to \x60s' command may not be zero"
        takeFlags fuel { substitution with start := some start } flags
      else
        let _ ← takeChar
        match c with
        | '\n' | ';' => return (substitution, flags)
        | 'g' =>
          if substitution.all then failHere "multiple \x60g' options to \x60s' command"
          takeFlags fuel { substitution with all := true } flags
        | 'p' =>
          if substitution.printsText || substitution.printsResult then
            failHere "multiple \x60p' options to \x60s' command"
          takeFlags fuel
            (if substitution.runs then { substitution with printsResult := true }
              else { substitution with printsText := true }) flags
        | 'e' =>
          refuseConfined
          takeFlags fuel { substitution with runs := true } flags
        | 'i' | 'I' => takeFlags fuel substitution { flags with folds := true }
        | 'm' | 'M' => takeFlags fuel substitution { flags with byLines := true }
        | ' ' | '\t' => takeFlags fuel substitution flags
        | 'w' => return ({ substitution with file := some (← takeFile) }, flags)
        | _ => failHere "unknown option to \x60s'"

/-- Takes a substitution after its letter. -/
def takeSubstitution : Reader Substitution := do
  let reason := "unterminated \x60s' command"
  match ← takeChar with
  | none => failHere reason
  | some delimiter =>
    let s ← takeDelimited delimiter true reason
    let replacement ← takeDelimited delimiter false reason
    let replacement := piecesOf replacement.length replacement
    let (substitution, flags) ←
      takeFlags ((← get).rest.length + 1) { pattern := none, replacement } {}
    let pattern ← patternOf s flags.folds flags.byLines
    let groups := (pattern.map fun found => groupCount found.1).getD 9
    replacement.forM fun
      | .group n =>
        if groups < n then
          failHere ("invalid reference \\" ++ toString n ++ " on \x60s' command's RHS")
        else return
      | _ => return
    return { substitution with pattern }

/-- Takes pairs of letters after the letter of their command; of two pairs for one letter the last
one counts. -/
def takePairs : Reader (List (Char × Char)) := do
  let reason := "unterminated \x60y' command"
  match ← takeChar with
  | none => failHere reason
  | some delimiter =>
    let left ← takeDelimited delimiter false reason
    let right ← takeDelimited delimiter false reason
    let left := unescaped left.length left
    let right := unescaped right.length right
    if left.length ≠ right.length then
      failHere "strings for \x60y' command are different lengths"
    takeEnd
    return (left.zip right).reverse

/-- Takes a number that may be left out, and the end of a command. -/
def takeOptional : Reader (Option Nat) := do
  skipBlanks
  if ((← peek).map Char.isDigit).getD false then
    let n ← takeNumber
    takeEnd
    return some n
  takeEnd
  return none

/-- The version that scripts may ask for. -/
def knownVersion : List Nat := [4, 9]

/-- Whether a version is not beyond the known one. -/
def isKnownVersion (s : List Char) : Bool :=
  let numbers := (pieces '.' s).map fun piece =>
    (piece.takeWhile Char.isDigit).foldl (fun n c => 10 * n + (c.toNat - 48)) 0
  !(decide (knownVersion < numbers))

/-! ### Commands -/

/-- Takes what belongs to the command of a letter that a selector goes before. -/
def takeAction (letter : Char) (selector : Selector) : Reader Action := do
  let plain (action : Action) : Reader Action := do
    takeEnd
    return action
  let refuseRange : Reader Unit := do
    if selector.bound.isSome then failHere "command only uses one address"
  match letter with
  | ':' =>
    if selector.first.isSome then failHere ": doesn't want any addresses"
    let name ← takeLabel
    if name.isEmpty then failHere "\":\" lacks a label"
    return .label name
  | 'a' => return .append (← takeText)
  | 'i' => return .insert (← takeText)
  | 'c' => return .change (← takeText)
  | 'e' =>
    refuseConfined
    skipBlanks
    match ← peek with
    | none | some '\n' =>
      let _ ← takeChar
      return .run []
    | some _ => return .run (← takeText)
  | 'b' => return .branch (← takeLabel)
  | 't' => return .branchIf true (← takeLabel)
  | 'T' => return .branchIf false (← takeLabel)
  | 'd' => plain .delete
  | 'D' => plain .deleteFirst
  | 'h' => plain .hold
  | 'H' => plain .holdMore
  | 'g' => plain .recall
  | 'G' => plain .recallMore
  | 'x' => plain .exchange
  | 'n' => plain .next
  | 'N' => plain .nextMore
  | 'p' => plain .print
  | 'P' => plain .printFirst
  | '=' => plain .number
  | 'F' => plain .fileName
  | 'z' => plain .clear
  | 'l' => return .show (← takeOptional)
  | 'q' =>
    refuseRange
    return .quit true ((← takeOptional).getD 0)
  | 'Q' =>
    refuseRange
    return .quit false ((← takeOptional).getD 0)
  | 'r' => return .read (← takeFile)
  | 'R' => return .readLine (← takeFile)
  | 'w' => return .write (← takeFile) false
  | 'W' => return .write (← takeFile) true
  | 's' => return .substitute (← takeSubstitution)
  | 'y' => return .exchangeLetters (← takePairs)
  | 'v' =>
    if !isKnownVersion (← takeLabel) then failHere "expected newer version of sed"
    return .label []
  | c => failHere ("unknown command: \x60" ++ String.singleton c ++ "'")

/-- Adds a command. -/
def add (command : Command) : Reader Unit :=
  modify fun reading => { reading with commands := reading.commands.push command }

/-- Closes the innermost block: it leads to the next command. -/
def closeBlock (selector : Selector) : Reader Unit := do
  let reading ← get
  match reading.blocks with
  | [] => failHere "unexpected \x60\x7d'"
  | (start, _) :: others =>
    if selector.first.isSome then failHere "\x7d doesn't want any addresses"
    let commands := reading.commands.modify start fun command =>
      { command with action := .block reading.commands.size }
    set { reading with commands, blocks := others }
    takeEnd

/-- Takes a remark. One at the very start that consists of a letter asks for silence. -/
def takeRemark (isFirst : Bool) : Reader Unit := do
  let isAtStart := (← get).count = 1
  let s ← takeWhile (· ≠ '\n')
  if isFirst && isAtStart && s = ['n'] then
    modify fun reading => { reading with isSilent := true }

/-- Takes the commands of a part. -/
def takeCommands (isFirst : Bool) (fuel : Nat) : Reader Unit := do
  match fuel with
  | 0 => return
  | fuel + 1 =>
    let _ ← takeWhile fun c => isSpace c || c = ';'
    if (← peek).isNone then return
    let selector ← takeSelector
    match ← takeChar with
    | none => failHere "missing command"
    | some '#' =>
      if selector.first.isSome then failHere "comments don't accept any addresses"
      takeRemark isFirst
    | some '\x7b' =>
      let reading ← get
      let place := reading.commands.size
      add ⟨selector, .block place⟩
      modify fun reading =>
        { reading with blocks := (place, reading.part.origin, reading.line) :: reading.blocks }
    | some '\x7d' => closeBlock selector
    | some letter => add ⟨selector, ← takeAction letter selector⟩
    takeCommands isFirst fuel

/-- Adds lines to the text of the last command. -/
def extendText (more : List Char) : Reader Unit :=
  modify fun reading =>
    { reading with
      commands := reading.commands.modify (reading.commands.size - 1) fun command =>
        { command with
          action := match command.action with
            | .append s => .append (s ++ more)
            | .insert s => .insert (s ++ more)
            | .change s => .change (s ++ more)
            | .run s => .run (s ++ more)
            | action => action } }

/-- Takes a part of a script. -/
def takePart (isFirst : Bool) (part : Part) : Reader Unit := do
  modify fun reading => { reading with part, rest := part.text }
  if (← get).isUnfinished then
    extendText (← takeLines)
  takeCommands isFirst (part.text.length + 1)

/-- A label that a command leads to but that does not exist; of several the last one. -/
def missingLabel? (commands : Array Command) : Option (List Char) :=
  let labels := commands.toList.filterMap fun command => match command.action with
    | .label name => some name
    | _ => none
  commands.toList.reverse.findSome? fun command => match command.action with
    | .branch name | .branchIf _ name =>
      if name.isEmpty || labels.contains name then none else some name
    | _ => none

/-- The reading before a script. -/
def Reading.start (spelling : Spelling) : Reading :=
  { spelling, part := ⟨.argument 0, []⟩, rest := [] }

/-- The script that has been read. -/
def Reading.script (reading : Reading) : Except Fault Script := do
  match reading.blocks with
  | (_, origin, line) :: _ =>
    let place := match origin with
      | .argument _ => 0
      | .file _ => line
    throw (.spelling origin place "unmatched \x60\x7b'")
  | [] => pure ()
  match missingLabel? reading.commands with
  | some name =>
    throw (.grave ("can't find label for jump to \x60".toList ++ name ++ ['\'']))
  | none => pure ()
  let place := match reading.part.origin with
    | .argument _ => 0
    | .file _ => reading.part.text.count '\n' + 1
  return ⟨reading.commands, reading.part.origin, place, reading.isSilent⟩

end CheckedBuild.Editing
