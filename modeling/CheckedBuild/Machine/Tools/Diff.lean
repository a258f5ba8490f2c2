import CheckedBuild.Machine.Tools.Operands
import CheckedBuild.Shell.Pattern
import CheckedBuild.Text.Calendar
import CheckedBuild.Text.Difference

/-!
# Comparing files line by line

What differs between two files is shown as changes of lines, alone or among the lines around them.
Directories are compared file by file. The status is 1 if something differs, and 2 after a fault.
-/

namespace CheckedBuild.Machine.Tools

open Process
open Text.Difference (Change)

/-- How changes are shown. -/
inductive DiffForm where
  | plain
  /-- With so many lines around them. -/
  | unified (context : Nat)
  /-- With so many lines around them, both files apart. -/
  | apart (context : Nat)
  /-- As commands for an editor. -/
  | commands
  /-- As commands with counts of lines. -/
  | counted
  /-- Both files side by side in so many columns. -/
  | beside (width : Nat)
  /-- Not at all: it is only told that there are some. -/
  | brief
deriving DecidableEq

/-- How many lines are shown around changes. -/
def DiffForm.context : DiffForm → Nat
  | .unified n | .apart n => n
  | _ => 0

/-- A file that is compared. -/
structure DiffSide where
  name : List Char
  /-- What stands for it in headings. -/
  label? : Option (List Char)
  text : List Char
  /-- When it was changed. -/
  time : Nat

/-- How files are compared. -/
structure Diffing where
  arguments : Arguments
  form : DiffForm
  /-- The options as they were given. -/
  given : List (List Char)

namespace Diffing

/-- Whether an option is given. -/
def has (diffing : Diffing) (letter : Char) : Bool := diffing.arguments.has letter

/-- What counts of a line. -/
def keyOf (diffing : Diffing) (line : List Char) : List Char :=
  let isBlank (c : Char) : Bool := c = ' ' || ('\t' ≤ c && c ≤ '\r')
  let isEnded := line.getLast? = some '\n'
  let body := if isEnded then line.dropLast else line
  let body := if diffing.has 'R' && body.getLast? = some '\r' then body.dropLast else body
  let body :=
    if diffing.has 'w' then body.filter fun c => !isBlank c
    else if diffing.has 'b' then
      let runs := body.splitBy fun a b => isBlank a = isBlank b
      let squeezed := runs.flatMap fun run => if run.any isBlank then [' '] else run
      (squeezed.reverse.dropWhile isBlank).reverse
    else if diffing.has 'Z' then (body.reverse.dropWhile isBlank).reverse
    else body
  let body := if diffing.has 'i' then body.map Char.toLower else body
  if isEnded || diffing.form = .commands || diffing.has 'w' || diffing.has 'b' || diffing.has 'Z' then body ++ ['\n']
  else body

/-- Whether nothing but blank lines is changed, and that is to be passed over. -/
def passesOver (diffing : Diffing) (lines others : Array (List Char)) (change : Change) : Bool :=
  diffing.has 'B'
    && (lines.extract change.first change.last ++ others.extract change.otherFirst
      change.otherLast).all fun line => line = ['\n'] || line = []

end Diffing

/-- Lines with a mark in front of each. -/
def markedLines (mark : List Char) (lines : Array (List Char)) (first last : Nat) : List Char :=
  (lines.extract first last).toList.flatMap fun line =>
    let text := mark ++ line
    if line.getLast? = some '\n' then text
    else text ++ "\n\\ No newline at end of file\n".toList

/-- A range of lines: its first and its last number, or the number of the line before it. -/
def lineRange (first last : Nat) : List Char :=
  if last ≤ first then decimal first
  else if last = first + 1 then decimal last
  else decimal (first + 1) ++ ',' :: decimal last

/-- Whether a change takes lines away, and whether it adds some. -/
def changeKind (change : Change) : Bool × Bool :=
  (change.first < change.last, change.otherFirst < change.otherLast)

/-- The letter of a change. -/
def changeLetter (change : Change) : Char :=
  match changeKind change with
  | (true, true) => 'c'
  | (true, false) => 'd'
  | _ => 'a'

/-- A change as it is shown alone. -/
def plainChange (lines others : Array (List Char)) (change : Change) : List Char :=
  lineRange change.first change.last ++ changeLetter change
    :: lineRange change.otherFirst change.otherLast ++ ['\n']
    ++ markedLines "< ".toList lines change.first change.last
    ++ (if changeLetter change = 'c' then "---\n".toList else [])
    ++ markedLines "> ".toList others change.otherFirst change.otherLast

/-- A change as a command for an editor. -/
def commandChange (others : Array (List Char)) (change : Change) : List Char :=
  let added := (others.extract change.otherFirst change.otherLast).toList.flatMap fun line =>
    if line.getLast? = some '\n' then line else line ++ ['\n']
  lineRange change.first change.last ++ changeLetter change :: '\n'
    :: (if (changeKind change).2 then added ++ ".\n".toList else [])

/-- A change as commands with counts of lines. -/
def countedChange (others : Array (List Char)) (change : Change) : List Char :=
  let (takesAway, adds) := changeKind change
  let command (letter : Char) (place count : Nat) : List Char :=
    letter :: decimal place ++ ' ' :: decimal count ++ ['\n']
  (if takesAway then command 'd' (change.first + 1) (change.last - change.first) else [])
    ++ if adds then
      command 'a' change.last (change.otherLast - change.otherFirst)
        ++ (others.extract change.otherFirst change.otherLast).toList.flatten
    else []

/-! ### Side by side -/

/-- The columns of two files side by side: how wide a half is, and where the second one begins. -/
structure HalfColumns where
  half : Nat
  second : Nat
  /-- Blanks are written for tabs. -/
  expands : Bool

/-- The columns that fit in a width. Unless blanks are written for tabs, the second half begins at
a tab stop. -/
def HalfColumns.ofWidth (width : Nat) (expands : Bool) : HalfColumns :=
  let step := if expands then 1 else 8
  let gap := step + 3
  let middle := width / 2 + gap / 2 + (if width % 2 = 1 && gap % 2 = 1 then 1 else 0)
  let second := middle - middle % step
  let half := if second ≤ 3 || width ≤ second then 0 else min (second - 3) (width - second)
  ⟨half, if half = 0 then width else second, expands⟩

namespace HalfColumns

/-- What leads from one column to another one. -/
def fill (columns : HalfColumns) (start stop : Nat) : List Char :=
  if columns.expands then List.replicate (stop - start) ' '
  else
    let tabs := stop / 8 - start / 8
    if tabs = 0 then List.replicate (stop - start) ' '
    else List.replicate tabs '\t' ++ List.replicate (stop % 8) ' '

/-- The part of a line that fits in its half, and the column behind it. The half begins at a
column; what has been read and what has been written of the line reach so far. -/
def halfLine (columns : HalfColumns) (start read written : Nat) : List Char → List Char × Nat
  | [] => ([], written)
  | c :: rest =>
    let put (s : List Char) (read written : Nat) : List Char × Nat :=
      let (more, last) := columns.halfLine start read written rest
      (s ++ more, last)
    match c with
    | '\n' => ([], written)
    | '\t' =>
      let stop := (read / 8 + 1) * 8
      if read ≠ written then put [] stop written
      else if columns.expands then
        let reached := min stop columns.half
        put (List.replicate (reached - written) ' ') stop (max written reached)
      else if stop < columns.half then put ['\t'] stop stop
      else put [] stop written
    | '\r' => put ('\r' :: columns.fill 0 start) 0 0
    | '\x08' =>
      if read = 0 || columns.half ≤ read - 1 then put [] (read - 1) written
      else if written ≤ read - 1 then
        put (List.replicate (read - 1 - written) ' ') (read - 1) (read - 1)
      else put ['\x08'] (read - 1) (read - 1)
    | c =>
      if ' ' ≤ c && c ≤ '~' then
        if read < columns.half then put [c] (read + 1) (read + 1) else put [] (read + 1) written
      else put (if read < columns.half then [c] else []) read written

/-- Lines of both files, or of one, with a sign between them. -/
def row (columns : HalfColumns) (left? : Option (List Char)) (sign : Char)
    (right? : Option (List Char)) : List Char :=
  let isEnded (line? : Option (List Char)) : Bool :=
    line?.any fun line => line.getLast? = some '\n'
  let (left, column) := (left?.map (columns.halfLine 0 0 0)).getD ([], 0)
  let sign := if sign = '|' && isEnded left? ≠ isEnded right? then
      if isEnded left? then '/' else '\\'
    else sign
  let place := (columns.half + columns.second - 1) / 2
  let (between, column) := if sign = ' ' then ([], column)
    else (columns.fill column place ++ [sign], max column place + 1)
  let right := match right? with
    | some line =>
      if line = ['\n'] then []
      else columns.fill column columns.second ++ (columns.halfLine columns.second 0 0 line).1
    | none => []
  left ++ between ++ right ++ if isEnded left? || isEnded right? then ['\n'] else []

end HalfColumns

/-- Both files side by side. Lines that they have in common can be shown on the left only, or
not at all. -/
def besideText (columns : HalfColumns) (leftOnly hidesCommon : Bool)
    (lines others : Array (List Char)) (changes : List Change) : List Char :=
  let rows (sign : Char) (first last otherFirst : Nat) : List Char :=
    (List.range (last - first)).flatMap fun i =>
      columns.row lines[first + i]? sign others[otherFirst + i]?
  let common (first last otherFirst : Nat) : List Char :=
    if hidesCommon then []
    else if leftOnly then
      (lines.extract first last).toList.flatMap fun line => columns.row (some line) '(' none
    else rows ' ' first last otherFirst
  let (text, place, otherPlace) := changes.foldl
    (fun ((text, place, otherPlace) : List Char × Nat × Nat) change =>
      let both := min (change.last - change.first) (change.otherLast - change.otherFirst)
      let added := (others.extract (change.otherFirst + both) change.otherLast).toList
      let removed := (lines.extract (change.first + both) change.last).toList
      (text ++ common place change.first otherPlace
        ++ rows '|' change.first (change.first + both) change.otherFirst
        ++ added.flatMap (fun line => columns.row none '>' (some line))
        ++ removed.flatMap (fun line => columns.row (some line) '<' none),
        change.last, change.otherLast)) ([], 0, 0)
  text ++ common place lines.size otherPlace

/-- Changes that are shown together because they are near one another. -/
def hunksOf (context : Nat) (changes : List Change) : List (List Change) :=
  changes.splitBy fun a b => b.first - a.last ≤ 2 * context

/-- Where the lines of a hunk begin and end. -/
def hunkBounds (context size otherSize : Nat) (hunk : List Change) : Change :=
  match hunk.head?, hunk.getLast? with
  | some a, some b =>
    ⟨a.first - context, min size (b.last + context), a.otherFirst - context,
      min otherSize (b.otherLast + context)⟩
  | _, _ => ⟨0, 0, 0, 0⟩

/-- The line in front of a hunk that looks like the beginning of a function. -/
def headingBefore (lines : Array (List Char)) (first : Nat) : List Char :=
  let found := (lines.extract 0 first).toList.reverse.find? fun line =>
    line.head?.any fun c => c.isAlpha || c = '_' || c = '$'
  match found with
  | some line =>
    let short := (line.takeWhile (· ≠ '\n')).take 40
    ' ' :: (short.reverse.dropWhile fun c => c = ' ' || ('\t' ≤ c && c ≤ '\r')).reverse
  | none => []

/-- A hunk in the unified form. -/
def unifiedHunk (context : Nat) (tellsFunction : Bool) (lines others : Array (List Char))
    (hunk : List Change) : List Char :=
  let bounds := hunkBounds context lines.size others.size hunk
  let range (first last : Nat) : List Char :=
    if last ≤ first then decimal first ++ ",0".toList
    else if last = first + 1 then decimal last
    else decimal (first + 1) ++ ',' :: decimal (last - first)
  let (body, place) := hunk.foldl (fun ((text, place) : List Char × Nat) change =>
    (text ++ markedLines [' '] lines place change.first
      ++ markedLines ['-'] lines change.first change.last
      ++ markedLines ['+'] others change.otherFirst change.otherLast, change.last))
    ([], bounds.first)
  "@@ -".toList ++ range bounds.first bounds.last ++ " +".toList
    ++ range bounds.otherFirst bounds.otherLast ++ " @@".toList
    ++ (if tellsFunction then headingBefore lines bounds.first else []) ++ '\n' :: body
    ++ markedLines [' '] lines place bounds.last

/-- A hunk with both files apart. -/
def apartHunk (context : Nat) (tellsFunction : Bool) (lines others : Array (List Char))
    (hunk : List Change) : List Char :=
  let bounds := hunkBounds context lines.size others.size hunk
  let range (first last : Nat) : List Char :=
    if last ≤ first + 1 then decimal last else decimal (first + 1) ++ ',' :: decimal last
  let mark (change : Change) (letter : Char) : List Char :=
    [if changeLetter change = 'c' then '!' else letter, ' ']
  let side (lines : Array (List Char)) (start stop : Nat) (letter : Char)
      (part : Change → Nat × Nat) : List Char :=
    if hunk.all fun change => (part change).1 = (part change).2 then []
    else
      let (text, place) := hunk.foldl (fun ((text, place) : List Char × Nat) change =>
        let (first, last) := part change
        (text ++ markedLines "  ".toList lines place first
          ++ markedLines (mark change letter) lines first last, last)) ([], start)
      text ++ markedLines "  ".toList lines place stop
  "***************".toList
    ++ (if tellsFunction then headingBefore lines bounds.first else []) ++ "\n*** ".toList
    ++ range bounds.first bounds.last ++ " ****\n".toList
    ++ side lines bounds.first bounds.last '-' (fun change => (change.first, change.last))
    ++ "--- ".toList ++ range bounds.otherFirst bounds.otherLast ++ " ----\n".toList
    ++ side others bounds.otherFirst bounds.otherLast '+'
      (fun change => (change.otherFirst, change.otherLast))

/-- The heading for a file: its label, or its name and when it was changed. -/
def sideHeading (format : String) (side : DiffSide) : List Char :=
  match side.label? with
  | some label => label
  | none =>
    let date := Text.Calendar.dateOf (side.time / 1000000000 : Nat) (side.time % 1000000000)
    side.name ++ '\t' :: date.written format.toList

/-- What is shown for two files that differ. -/
def shownChanges (diffing : Diffing) (left right : DiffSide) : List Char :=
  let lines := (fullLines left.text).toArray
  let others := (fullLines right.text).toArray
  let context := diffing.form.context
  let changes := Text.Difference.changes context (lines.map diffing.keyOf)
    (others.map diffing.keyOf)
  let kept := changes.filter fun change => !diffing.passesOver lines others change
  let hunks := (hunksOf context changes).filter fun hunk =>
    hunk.any fun change => !diffing.passesOver lines others change
  let tells := diffing.has 'p'
  let isBeside := match diffing.form with
    | .beside _ => true
    | _ => false
  if kept.isEmpty && !isBeside then []
  else
    match diffing.form with
    | .beside width =>
      besideText (.ofWidth width (diffing.has 't')) (diffing.has 'α') (diffing.has 'β') lines
        others kept
    | .counted => kept.flatMap (countedChange others)
    | .plain => kept.flatMap (plainChange lines others)
    | .commands => kept.reverse.flatMap (commandChange others)
    | .unified n =>
      "--- ".toList ++ sideHeading "%Y-%m-%d %H:%M:%S.%N %z" left ++ "\n+++ ".toList
        ++ sideHeading "%Y-%m-%d %H:%M:%S.%N %z" right ++ '\n'
        :: hunks.flatMap (unifiedHunk n tells lines others)
    | .apart n =>
      "*** ".toList ++ sideHeading "%a %b %e %T %Y" left ++ "\n--- ".toList
        ++ sideHeading "%a %b %e %T %Y" right ++ '\n'
        :: hunks.flatMap (apartHunk n tells lines others)
    | .brief =>
      "Files ".toList ++ left.name ++ " and ".toList ++ right.name ++ " differ\n".toList

/-- Compares two texts; the result is the status. -/
def compareSides (process : Process) (diffing : Diffing) (isInside : Bool)
    (left right : DiffSide) : Step Nat := do
  let named (front back : String) : List Char :=
    front.toList ++ left.name ++ " and ".toList ++ right.name ++ back.toList
  if left.text = right.text then
    if let .beside _ := diffing.form then process.say (shownChanges diffing left right)
    if diffing.has 's' then process.say (closed (named "Files " " are identical"))
    return 0
  let isBinary (s : List Char) : Bool := (s.take 32768).contains '\x00'
  if !diffing.has 'a' && (isBinary left.text || isBinary right.text) then
    let what := if diffing.form = .brief then "Files " else "Binary files "
    process.say (closed (named what " differ"))
    return 1
  let shown := shownChanges diffing left right
  let isUnended (side : DiffSide) : Bool :=
    !side.text.isEmpty && side.text.getLast? ≠ some '\n'
  let unended := if diffing.form = .commands then [left, right].filter isUnended else []
  if shown.isEmpty && unended.isEmpty then
    if diffing.has 's' then process.say (closed (named "Files " " are identical"))
    return 0
  if isInside && diffing.form ≠ .brief then
    let words := "diff".toList :: diffing.given ++ [left.name, right.name]
    process.say (closed (Text.joinWith [' '] (words.map (Quotation.ifNeeded false []))))
  process.say shown
  unended.forM fun side =>
    process.complain (side.name ++ ": No newline at end of file\n".toList)
  return if unended.isEmpty then 1 else 2

/-- Something to be compared. -/
inductive Compared where
  | text (side : DiffSide)
  | directory (place : Name)
  | missing (refusal : Refusal)

/-- What stands under a name. -/
def comparedAt (process : Process) (label? : Option (List Char)) (name : List Char) :
    Step Compared := do
  if name = ['-'] then
    let kernel ← get
    let node := match process.descriptors.lookup 0 with
      | some number => kernel.nodeOf number
      | none => Node.file 0 []
    let (text, _) ← process.gather [['-']]
    return .text ⟨name, label?, text, node.changed⟩
  match ← nodeAt name with
  | .error refusal => return .missing refusal
  | .ok (place, node) =>
    if node.isDirectory then return .directory place
    match ← process.openInput (some name) with
    | .error refusal => return .missing refusal
    | .ok number => return .text ⟨name, label?, ← readAll number, node.changed⟩

/-- Compares what stands under two names. -/
def compareNamed (process : Process) (diffing : Diffing) (isInside : Bool) (fuel : Nat)
    (left right : List Char) : Step Nat := do
  let labels := diffing.arguments.values 'L'
  let first ← comparedAt process labels[0]? left
  let second ← comparedAt process labels[1]? right
  let report (name : List Char) (refusal : Refusal) : Step Unit :=
    process.warn (process.blamePlainly name refusal)
  let treatsAbsent := diffing.has 'N'
  match fuel, first, second with
  | _, .text a, .text b => compareSides process diffing isInside a b
  | _, .missing refusal, .missing other =>
    report left refusal
    report right other
    return 2
  | _, .missing refusal, .text b =>
    if treatsAbsent then
      compareSides process diffing isInside ⟨left, labels[0]?, [], 0⟩ b
    else do
      report left refusal
      return 2
  | _, .text a, .missing refusal =>
    if treatsAbsent then
      compareSides process diffing isInside a ⟨right, labels[1]?, [], 0⟩
    else do
      report right refusal
      return 2
  | _, .missing refusal, _ =>
    report left refusal
    return 2
  | _, _, .missing refusal =>
    report right refusal
    return 2
  | fuel + 1, .directory _, .text _ =>
    if isInside then
      process.say (closed ("File ".toList ++ left ++ " is a directory while file ".toList ++ right
        ++ " is a regular file".toList))
      return 1
    else compareNamed process diffing false fuel (joined left (lastComponent right)) right
  | fuel + 1, .text _, .directory _ =>
    if isInside then
      process.say (closed ("File ".toList ++ left ++ " is a regular file while file ".toList
        ++ right ++ " is a directory".toList))
      return 1
    else compareNamed process diffing false fuel left (joined right (lastComponent left))
  | fuel + 1, .directory place, .directory other =>
    if isInside && !diffing.has 'r' then
      process.say (closed ("Common subdirectories: ".toList ++ left ++ " and ".toList ++ right))
      return 0
    let files := (← get).files
    let excluded := diffing.arguments.values 'x'
    let namesIn (place : Name) : List (List Char) :=
      ((files.entries place).map fun entry => rawOf entry.1).filter fun name =>
        !excluded.any fun pattern => Shell.matchesPattern false pattern name
    let (mine, others) := (namesIn place, namesIn other)
    let names := ((mine ++ others).mergeSort (· ≤ ·)).eraseDups
    onEach names fun name => do
      let (a, b) := (joined left name, joined right name)
      let only (directory : List Char) : Step Nat := do
        process.say (closed ("Only in ".toList ++ directory ++ ": ".toList ++ name))
        return 1
      if !mine.contains name && !treatsAbsent then only right
      else if !others.contains name && !treatsAbsent then only left
      else compareNamed process diffing true fuel a b
  | 0, _, _ => return 2

/-- The complaint about a wrong use, which is told where to read about it. -/
def wrongDiffing (process : Process) (message : List Char) : Step Nat := do
  process.complain message
  process.complain "Try 'diff --help' for more information.".toList
  return 2

/-- A style of showing changes that options ask for, with the lines around them. -/
structure DiffStyle where
  letter : Option Char := none
  context : Nat := 0
  width : Nat := 130
  /-- Digits among the options. -/
  digits : List Char := []

/-- Adds what an option asks for, or says what is wrong with it. -/
def DiffStyle.withOption (style : DiffStyle) (option : Char × List Char) :
    Except (List Char) DiffStyle :=
  let (letter, value) := option
  let choose (letter : Char) (context : Nat) : Except (List Char) DiffStyle :=
    if style.letter.any (· ≠ letter) then .error "conflicting output style options".toList
    else .ok { style with letter := some letter, context := max style.context context }
  let withContext (letter : Char) : Except (List Char) DiffStyle :=
    if value.isEmpty then choose letter 3
    else
      match Text.natural? value with
      | some n => choose letter n
      | none => .error ("invalid context length ".toList ++ marked value)
  match letter with
  | 'u' | 'U' => withContext 'u'
  | 'c' | 'C' => withContext 'c'
  | 'e' | 'n' | 'y' => choose letter 0
  | 'O' => choose 'O' 0
  | 'W' =>
    match Text.natural? value with
    | some (n + 1) => .ok { style with width := n + 1 }
    | _ => .error ("invalid width ".toList ++ marked value)
  | letter =>
    if letter.isDigit then .ok { style with digits := style.digits ++ [letter] } else .ok style

/-- The form that options ask for. -/
def DiffStyle.form (style : DiffStyle) (options : Arguments) : DiffForm :=
  let context := (Text.natural? style.digits).getD style.context
  if options.has 'q' then .brief
  else
    match style.letter with
    | some 'u' => .unified context
    | some 'c' => .apart context
    | some 'e' => .commands
    | some 'n' => .counted
    | some 'y' => .beside style.width
    | some _ => .plain
    | none => if options.has 'p' then .apart ((Text.natural? style.digits).getD 3) else .plain

/-- Compares files line by line. -/
def diff (process : Process) : Step Nat := do
  let process := { process with name := process.shortName }
  let table : OptionTable :=
    { plain := "aBbcdeEilnNpqrsTtuwyZ0123456789", valued := "CILUxFWS"
      words := [("brief", 'q'), ("report-identical-files", 's'), ("unified", 'u'),
        ("context", 'c'), ("label", 'L'), ("ignore-case", 'i'), ("ignore-all-space", 'w'),
        ("ignore-space-change", 'b'), ("ignore-blank-lines", 'B'),
        ("ignore-trailing-space", 'Z'), ("new-file", 'N'), ("recursive", 'r'), ("text", 'a'),
        ("show-c-function", 'p'), ("minimal", 'd'), ("ed", 'e'), ("normal", 'O'),
        ("exclude", 'x'), ("strip-trailing-cr", 'R'), ("color", 'k'), ("rcs", 'n'),
        ("side-by-side", 'y'), ("width", 'W'), ("left-column", 'α'),
        ("suppress-common-lines", 'β'), ("expand-tabs", 't'), ("ignore-tab-expansion", 'E'),
        ("speed-large-files", 'γ'), ("horizon-lines", 'γ'), ("starting-file", 'S')] }
  match table.read (process.arguments.length + 1) process.arguments with
  | .error message => wrongDiffing process message
  | .ok arguments =>
    match arguments.options.foldlM DiffStyle.withOption {} with
    | .error message => wrongDiffing process message
    | .ok style =>
      if 2 < (arguments.values 'L').length then
        process.complain "too many file label options".toList
        return 2
      let form := style.form arguments
      let given := process.arguments.filter fun s =>
        !arguments.operands.contains s || s = ['-', '-']
      match arguments.operands with
      | [left, right] =>
        if left = ['-'] && right = ['-'] then return 0
        compareNamed process ⟨arguments, form, given⟩ false 64 left right
      | operands =>
        match operands[2]? with
        | some extra => wrongDiffing process ("extra operand ".toList ++ marked extra)
        | none =>
          wrongDiffing process ("missing operand after ".toList
            ++ marked (operands.getLast?.getD process.name))

end CheckedBuild.Machine.Tools
