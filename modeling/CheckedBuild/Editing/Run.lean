import CheckedBuild.Editing.Script
import CheckedBuild.Machine.Tools.Runners

/-!
# Running editing scripts

The lines of the inputs are edited one after the other: a line becomes the pattern space, the
commands that select it change that, and at the end it is printed. What is kept in the hold space
outlives the line. Inputs are edited together, each on its own, or each one in its place, and then
what is printed becomes the file.
-/

namespace CheckedBuild.Editing

open Text Machine

/-- A line, and whether a line feed ends it. -/
structure Line where
  text : List Char := []
  isClosed : Bool := true

/-- What is put behind a line when it is done. -/
inductive Trailer where
  | text (s : List Char)
  | file (name : List Char)

/-- Where lines are written to. -/
inductive Target where
  /-- The edited text. -/
  | result
  | standard
  | error
  | file (name : List Char)
deriving DecidableEq

/-- An input that is being read. -/
structure Source where
  name : List Char
  /-- The number of its stream. -/
  stream : Nat
  /-- What has been read of it but not edited yet. -/
  rest : List Char := []
  /-- Nothing more will come. -/
  isDone : Bool := false
  refusal : Option Refusal := none

/-- How an editor goes about its work. -/
structure Manner where
  /-- Lines are printed only on request. -/
  isSilent : Bool
  /-- What ends a line. -/
  feed : Char := '\n'
  /-- The greatest width of what shows a line, if there is one. -/
  width : Option Nat := some 70
  /-- Each input is edited on its own. -/
  isSeparate : Bool := false
  /-- Inputs are edited in their places, and kept under another name if the pattern of one is
  given. -/
  inPlace : Option (List Char) := none
  /-- What leads to a file is followed before that is edited in its place. -/
  followsLinks : Bool := false
  /-- No more is read than is needed. -/
  isSparing : Bool := false

/-- The state of an editor. -/
structure Editor where
  script : Script
  manner : Manner
  process : Process
  starter : Starter
  kernel : Kernel
  /-- The inputs that have not been opened yet. -/
  names : List (List Char)
  source : Option Source := none
  /-- The name of the input that was opened last. -/
  name : List Char := ['-']
  /-- The number of the current line. -/
  count : Nat := 0
  pattern : Line := {}
  held : Line := {}
  trailers : List Trailer := []
  /-- The commands inside of their ranges, with the last lines of those if they are known. -/
  ranges : List (Nat × Option Nat) := []
  /-- Whether something was replaced since a line was read. -/
  replaced : Bool := false
  /-- The pattern that was used last. -/
  lastPattern : Pattern := none
  /-- What the file that is edited in its place becomes, the last piece first. -/
  edited : Option (List (List Char)) := none
  /-- The targets whose last line still lacks its end. -/
  unended : List Target := []
  /-- The files that are written, by their names, with their streams. -/
  writers : List (List Char × Nat) := []
  /-- What is left of the files that are read line by line. -/
  readers : List (List Char × List Char) := []
  /-- The status if nothing else happens. -/
  status : Nat := 0

/-- Why the commands for a line come to an end. -/
inductive Stop where
  /-- The line is done: it is printed unless it was deleted. -/
  | done (prints : Bool)
  /-- The commands start again on what is left of the line. -/
  | again
  | quit (prints : Bool) (status : Nat)
  | fault (fault : Fault)
  /-- The process has ended. -/
  | ended (ending : Ending)

instance : OfKernel Editor := ⟨Editor.kernel, fun editor kernel => { editor with kernel }⟩

/-- What an editor does. -/
abbrev Edit := Strand Stop Editor

/-- Does something as the process of the editor. -/
def step {α : Type} (run : Process → Step α) : Edit α := do
  let process := (← get).process
  Strand.enlarge .ended (run process)

/-- Ends the editing for a reason. -/
def giveUp {α : Type} (reason : List Char) : Edit α := throw (.fault (.grave reason))

/-! ### Writing -/

/-- Writes a text to a target, behind the end of a line that lacks it. -/
def emit (target : Target) (s : List Char) (isComplete : Bool := true) : Edit Unit := do
  let editor ← get
  let target := if target = .result && editor.edited.isNone then .standard else target
  let s := if editor.unended.contains target then editor.manner.feed :: s else s
  let others := editor.unended.filter (· ≠ target)
  let editor := { editor with unended := if isComplete then others else target :: others }
  set editor
  match target with
  | .result => set { editor with edited := editor.edited.map (s :: ·) }
  | .standard =>
    step fun process => do
      process.print s
      if editor.manner.isSparing then process.flush
  | .error => step fun process => process.warnPlainly s
  | .file name =>
    match editor.writers.lookup name with
    | some stream =>
      let _ ← step fun _ => putAll stream (bytesOfRaw s)
    | none => return

/-- Writes a line to a target. -/
def emitLine (target : Target) (line : Line) : Edit Unit := do
  let feed := (← get).manner.feed
  emit target (if line.isClosed then line.text ++ [feed] else line.text) line.isClosed

/-- The target that a name stands for. -/
def targetOf (name : List Char) : Target :=
  if name = "/dev/stdout".toList then .standard
  else if name = "/dev/stderr".toList then .error
  else .file name

/-- Opens the files that the commands write to. -/
def openWriters : Edit Unit := do
  let names := (← get).script.commands.toList.flatMap Command.written
  names.eraseDups.forM fun name => do
    if let .file _ := targetOf name then
      match ← step fun process => process.createFile (.write false) name with
      | .ok number =>
        modify fun editor => { editor with writers := (name, number) :: editor.writers }
      | .error refusal =>
        giveUp ("couldn't open file ".toList ++ name ++ ": ".toList ++ refusal.complaint.toList)

/-- What a command of the shell prints. -/
def outputOf (command : List Char) : Edit (List Char) := do
  let starter := (← get).starter
  step fun process => do
    let output ← modifyGet fun kernel : Kernel => kernel.openStream (.sink [])
    let descriptors := (1, output) :: process.descriptors.filter (·.1 != 1)
    let files := (← get).files
    match executeOrShell files process.given "/bin/sh" "sh".toList ["-c".toList, command] with
    | .ok launch => let _ ← Tools.runProgram starter { process with descriptors } launch
    | .error _ => pure ()
    return rawOfBytes ((← get).written output)

/-! ### Inputs -/

/-- The ranges that are open before the first line. -/
def openRanges (commands : Array Command) : List (Nat × Option Nat) :=
  commands.toList.zipIdx.filterMap fun (command, place) =>
    match command.selector.first with
    | some (.line 0) => some (place, none)
    | _ => none

/-- What goes before an input that is edited on its own. -/
def startAfresh : Edit Unit := do
  emit .standard []
  modify fun editor =>
    { editor with
      count := 0, held := {}, readers := [], ranges := openRanges editor.script.commands }

/-- The path that a file is edited under. -/
def placeOf (name : List Char) : Edit (List Char) := do
  let editor ← get
  if !editor.manner.followsLinks then return name
  match editor.kernel.files.resolve (textOfRaw name) with
  | .ok place => return Tools.pathOf place
  | .error _ => return name

/-- Opens an input. -/
def openSource (name : List Char) : Edit Unit := do
  let manner := (← get).manner
  if manner.isSeparate then startAfresh
  let isStandard := name = ['-'] && manner.inPlace.isNone
  match ← step fun process =>
    if isStandard then pure process.inputStream else process.openFile name with
  | .error refusal =>
    step fun process =>
      process.complain
        ("can't read ".toList ++ name ++ ": ".toList ++ refusal.complaint.toList)
    modify fun editor => { editor with status := 2 }
  | .ok stream =>
    let refusal ← step fun _ => Process.readRefusal? stream
    let name ← if isStandard then pure name else placeOf name
    if manner.inPlace.isSome then
      if !(← get).kernel.files.isFile (textOfRaw name) then
        giveUp ("couldn't edit ".toList ++ name ++ ": not a regular file".toList)
      modify fun editor =>
        { editor with edited := some [], unended := editor.unended.filter (· ≠ .result) }
    modify fun editor =>
      { editor with name, source := some { name, stream, refusal, isDone := refusal.isSome } }

/-- The name that a file is kept under: a star stands for its own name, and a pattern without one
goes behind that. -/
def keptName (pattern name : List Char) : List Char :=
  let base := Tools.lastComponent name
  let kept :=
    if pattern.contains '*' then pattern.flatMap fun c => if c = '*' then base else [c]
    else base ++ pattern
  if kept.contains '/' then kept
  else (name.reverse.dropWhile (· ≠ '/')).reverse ++ kept

/-- Puts what a file has become in its place, and keeps the old one if that is wanted. -/
def replaceFile (name pattern s : List Char) : Edit Unit := do
  let files := (← get).kernel.files
  let refuse (refusal : Refusal) : Edit Unit :=
    giveUp ("cannot rename ".toList ++ name ++ ": ".toList ++ refusal.complaint.toList)
  match files.find (textOfRaw name) false, files.find (textOfRaw name) with
  | .ok (place, _), .ok (_, node) =>
    let files ← if pattern.isEmpty then pure files
      else
        match files.resolve (textOfRaw (keptName pattern name)) false with
        | .ok kept => pure (files.move place kept)
        | .error refusal =>
          refuse refusal
          pure files
    let made := files.put place (.file node.mode (bytesOfRaw s))
    modify fun editor => { editor with kernel := { editor.kernel with files := made } }
  | .error refusal, _ | _, .error refusal => refuse refusal

/-- Is done with an input. -/
def closeSource : Edit Unit := do
  let editor ← get
  set { editor with source := none, edited := none }
  match editor.source, editor.edited, editor.manner.inPlace with
  | some source, some pieces, some pattern =>
    replaceFile source.name pattern pieces.reverse.flatten
  | _, _, _ => return

/-- How much is read at once. -/
def readSize : Nat := 4096

/-- Reads on until there is a whole line of the input, or at least so much that it is known whether
there is one; `before` are the pieces so far, the last one first. -/
def fill (fuel : Nat) (isWhole : Bool) (source : Source) (before : List (List Char)) :
    Edit Unit := do
  let store (source : Source) (pieces : List (List Char)) : Edit Unit :=
    modify fun editor =>
      { editor with source := some { source with rest := pieces.reverse.flatten } }
  match fuel with
  | 0 => store source before
  | fuel + 1 =>
    let feed := (← get).manner.feed
    let bytes ← step fun _ => do
      if (← get).isFile source.stream then takeSome source.stream
      else takeUpTo source.stream readSize
    let piece := rawOfBytes bytes
    if piece.isEmpty then store { source with isDone := true } before
    else if !isWhole || piece.contains feed then store source (piece :: before)
    else fill fuel isWhole source (piece :: before)

/-- Takes the next line of the inputs, of which some have not been opened yet. -/
def takeLine (names : List (List Char)) : Edit (Option Line) := do
  let editor ← get
  let feed := editor.manner.feed
  match editor.source with
  | some source =>
    if let some refusal := source.refusal then
      let name := if source.name = ['-'] then "stdin".toList else source.name
      giveUp ("read error on ".toList ++ name ++ ": ".toList ++ refusal.complaint.toList)
    if !source.isDone && !source.rest.contains feed then
      fill pieceLimit true source [source.rest]
    let rest := ((← get).source.map Source.rest).getD []
    if !rest.isEmpty then
      let text := rest.takeWhile (· ≠ feed)
      let after := rest.drop text.length
      modify fun editor =>
        { editor with
          source := editor.source.map fun source => { source with rest := after.drop 1 } }
      return some ⟨text, !after.isEmpty⟩
    closeSource
  | none => pure ()
  match names with
  | [] => return none
  | name :: names =>
    modify fun editor => { editor with names }
    openSource name
    takeLine names

/-- Whether the inputs hold more lines; inputs that hold nothing are passed over. -/
def holdsMore (names : List (List Char)) : Edit Bool := do
  if let some source := (← get).source then
    if source.rest.isEmpty && !source.isDone then fill pieceLimit false source []
  let editor ← get
  if (editor.source.map fun source => !source.rest.isEmpty).getD false then return true
  if editor.manner.isSeparate then return false
  set { editor with source := none }
  match names with
  | [] => return false
  | name :: names =>
    modify fun editor => { editor with names }
    openSource name
    holdsMore names

/-- Whether there is no line after the current one. -/
def isLast : Edit Bool := do
  return !(← holdsMore (← get).names)

/-- Leaves what has been read too early to others, if that is possible or has been asked for. -/
def leaveRest : Edit Unit := do
  let editor ← get
  match editor.source with
  | some source =>
    if editor.kernel.isFile source.stream || editor.manner.isSparing then
      set { editor with
        kernel := editor.kernel.unread source.stream (bytesOfRaw source.rest) }
  | none => return

/-! ### Lines -/

/-- Prints what was put behind the line. -/
def flush : Edit Unit := do
  let trailers := (← get).trailers
  modify fun editor => { editor with trailers := [] }
  trailers.reverse.forM fun
    | .text s => emit .result s
    | .file name => do
      emit .result []
      match ← step fun process => process.openFile name with
      | .error _ => return
      | .ok stream =>
        match ← step fun _ => Process.readRefusal? stream with
        | some refusal =>
          giveUp ("read error on ".toList ++ name ++ ": ".toList ++ refusal.complaint.toList)
        | none => emit .result (← step fun _ => Process.readAll stream)

/-- Reads the next line, if there is one. -/
def advance : Edit (Option Line) := do
  flush
  modify fun editor => { editor with replaced := false }
  let line? ← takeLine (← get).names
  if line?.isSome then modify fun editor => { editor with count := editor.count + 1 }
  return line?

/-- Ends the line: it is printed unless that is not wanted. -/
def finish (prints : Bool) : Edit Unit := do
  let editor ← get
  if prints && !editor.manner.isSilent then emitLine .result editor.pattern
  flush

/-- The next line of a file that is read line by line, with its end. -/
def nextLineOf (name : List Char) : Edit (List Char) := do
  let rest ← match (← get).readers.lookup name with
    | some rest => pure rest
    | none =>
      match ← step fun process => process.openFile name with
      | .error _ => pure []
      | .ok stream =>
        if let some refusal ← step fun _ => Process.readRefusal? stream then
          giveUp ("read error on ".toList ++ name ++ ": ".toList ++ refusal.complaint.toList)
        step fun _ => Process.readAll stream
  let feed := (← get).manner.feed
  let text := rest.takeWhile (· ≠ feed)
  let after := rest.drop text.length
  modify fun editor =>
    { editor with
      readers := (name, after.drop 1) :: editor.readers.filter (·.1 != name) }
  return text ++ after.take 1

/-! ### Selecting lines -/

/-- The expression of a pattern, which is remembered. -/
def expressionOf (pattern : Pattern) : Edit (Regular.Expression × Bool) := do
  match pattern with
  | some found =>
    modify fun editor => { editor with lastPattern := some found }
    return found
  | none =>
    let editor ← get
    match editor.lastPattern with
    | some found => return found
    | none =>
      let script := editor.script
      throw (.fault (.spelling script.origin script.place "no previous regular expression"))

/-- Whether an address selects the line. -/
def isAt (address : Address) : Edit Bool := do
  let editor ← get
  match address with
  | .line number => return editor.count = number
  | .last => isLast
  | .step first distance =>
    return first ≤ editor.count && (editor.count - first) % distance = 0
  | .pattern pattern =>
    let (expression, folds) ← expressionOf pattern
    return (Regular.search expression folds editor.pattern.text.toArray 0).isSome

/-- Begins a range of lines, unless its end has been reached already. -/
def beginRange (place : Nat) (bound : Bound) : Edit Unit := do
  let count := (← get).count
  let start (last : Option Nat) : Edit Unit :=
    modify fun editor => { editor with ranges := (place, last) :: editor.ranges }
  let startUpTo (last : Nat) : Edit Unit := if count < last then start (some last) else return
  match bound with
  | .address (.line number) => startUpTo number
  | .address (.step first distance) =>
    startUpTo (first + (count - first + distance - 1) / distance * distance)
  | .address _ => start none
  | .after more => startUpTo (count + more)
  | .multiple factor =>
    startUpTo (if factor = 0 then 0 else (count / factor + 1) * factor)

/-- Whether a selector selects the line, for the command at a place. -/
def selects (place : Nat) (selector : Selector) : Edit Bool := do
  let close : Edit Unit :=
    modify fun editor => { editor with ranges := editor.ranges.filter (·.1 != place) }
  match selector.first, selector.bound with
  | none, _ => return true
  | some first, none => isAt first
  | some first, some bound =>
    let editor ← get
    match editor.ranges.lookup place with
    | some (some last) =>
      if last ≤ editor.count then close
      -- the end of a range may have been read by a command
      match bound with
      | .address (.line _) => return editor.count ≤ last
      | _ => return true
    | some none =>
      match bound with
      | .address address => if ← isAt address then close
      | _ => close
      return true
    | none =>
      if !(← isAt first) then return false
      beginRange place bound
      return true

/-! ### Substitutions -/

/-- A letter in a case. -/
def Case.apply (case : Case) (c : Char) : Char :=
  match case with
  | .upper => c.toUpper
  | .lower => c.toLower
  | .kept => c

/-- The texts of the pieces one after the other; the case for all that follows, and the one for
the next letter. -/
def replacementFor (group : Nat → List Char) (case : Case) (once : Option Case) :
    List Piece → List Char
  | [] => []
  | .case changed true :: rest => replacementFor group case (some changed) rest
  | .case changed false :: rest => replacementFor group changed none rest
  | piece :: rest =>
    let s := match piece with
      | .text s => s
      | .group number => group number
      | .case .. => []
    match s with
    | [] => replacementFor group case once rest
    | c :: tail =>
      (once.getD case).apply c :: tail.map case.apply ++ replacementFor group case none rest

/-- The text with the matches replaced, from a place on; `count` is the number of the next match,
and `last` the end of the one before. Nothing is returned if there is none. -/
def replaceFrom (substitution : Substitution) (expression : Regular.Expression) (folds : Bool)
    (text : Array Char) (fuel place count : Nat) (last : Option Nat) : Option (List Char) :=
  match fuel with
  | 0 => none
  | fuel + 1 =>
    match Regular.search expression folds text place with
    | none => none
    | some (start, stop, groups) =>
      let before := (text.extract place start).toList
      -- an empty match may not touch the one before
      let isVoid := start = stop && last = some start
      let next (count : Nat) : Option (List Char) :=
        if start = stop then
          match text[start]? with
          | some c =>
            (replaceFrom substitution expression folds text fuel (start + 1) count (some stop)).map
              (c :: ·)
          | none => none
        else replaceFrom substitution expression folds text fuel stop count (some stop)
      let others := (text.extract stop text.size).toList
      let rest : Option (List Char) → List Char := fun found? => found?.getD others
      if isVoid then (next count).map (before ++ ·)
      else if count < substitution.start.getD 1 then
        (next (count + 1)).map ((before ++ (text.extract start stop).toList) ++ ·)
      else
        let group (number : Nat) : List Char :=
          if number = 0 then (text.extract start stop).toList
          else match groups.lookup number with
            | some (first, last) => (text.extract first last).toList
            | none => []
        let new := replacementFor group .kept none substitution.replacement
        some (before ++ new ++ if substitution.all then rest (next (count + 1)) else others)

/-- A text without the line end that it may have. -/
def withoutEnd (feed : Char) (s : List Char) : List Char :=
  if s.getLast? = some feed then s.dropLast else s

/-- Replaces the matches in the pattern space. -/
def substitute (substitution : Substitution) : Edit Unit := do
  let (expression, folds) ← expressionOf substitution.pattern
  let editor ← get
  let text := editor.pattern.text.toArray
  match replaceFrom substitution expression folds text (text.size + 2) 0 1 none with
  | none => return
  | some s =>
    let pattern := { editor.pattern with text := s }
    set { editor with pattern, replaced := true }
    if substitution.printsText then emitLine .result pattern
    if substitution.runs then
      let s ← outputOf s
      let pattern := { pattern with text := withoutEnd editor.manner.feed s }
      modify fun editor => { editor with pattern }
    let pattern := (← get).pattern
    if substitution.printsResult then emitLine .result pattern
    match substitution.file with
    | some name => emitLine (targetOf name) pattern
    | none => return

/-! ### Commands -/

/-- The text of a line with everything shown, broken into pieces of a greatest width. -/
def shown (width : Option Nat) (s : List Char) : List Char :=
  let pieces := s.map fun c =>
    match c with
    | '\\' => ['\\', '\\']
    | '\n' => ['\\', 'n']
    | '\t' => ['\\', 't']
    | '\r' => ['\\', 'r']
    | '\x07' => ['\\', 'a']
    | '\x08' => ['\\', 'b']
    | '\x0b' => ['\\', 'v']
    | '\x0c' => ['\\', 'f']
    | c =>
      if ' ' ≤ c && c ≤ '~' then [c]
      else
        let digits := Nat.toDigits 8 c.toNat
        '\\' :: List.replicate (3 - digits.length) '0' ++ digits
  let (text, _) := pieces.foldl (fun (text, column) (piece : List Char) =>
    if width.any (· ≤ column + piece.length) then
      (piece.reverse ++ "\n\\".toList ++ text, piece.length)
    else (piece.reverse ++ text, column + piece.length)) (([] : List Char), 0)
  text.reverse

/-- The place behind a label; without a name it is the end of the script. -/
def destination (commands : Array Command) (name : List Char) : Nat :=
  if name.isEmpty then commands.size
  else
    (commands.findIdx? fun command => match command.action with
      | .label other => other == name
      | _ => false).getD commands.size

/-- Runs a command of the shell: what it prints goes in front of the line, or takes the place of
the line if that is the command. -/
def runShell (command : List Char) : Edit Unit := do
  if command.isEmpty then
    let s ← outputOf (← get).pattern.text
    modify fun editor =>
      { editor with
        pattern := ⟨withoutEnd editor.manner.feed s, true⟩ }
  else
    let s ← outputOf command
    emit .result s

/-- Runs the command at a place for a line that it selects; the result is the next place. -/
def perform (place : Nat) (command : Command) : Edit Nat := do
  let editor ← get
  let next := place + 1
  let feed := editor.manner.feed
  let joined (first second : List Char) : List Char := first ++ feed :: second
  match command.action with
  | .block _ | .label _ => return next
  | .append s => set { editor with trailers := .text s :: editor.trailers }
  | .insert s => emit .result s
  | .change s =>
    if (editor.ranges.lookup place).isNone then emit .result s
    throw (.done false)
  | .run command => runShell command
  | .branch name => return destination editor.script.commands name
  | .branchIf wanted name =>
    let replaced := editor.replaced
    set { editor with replaced := false }
    if replaced = wanted then return destination editor.script.commands name
  | .delete => throw (.done false)
  | .deleteFirst =>
    let s := editor.pattern.text
    if !s.contains feed then throw (.done false)
    let text := (s.dropWhile (· ≠ feed)).drop 1
    set { editor with pattern := { editor.pattern with text } }
    throw .again
  | .hold => set { editor with held := editor.pattern }
  | .holdMore =>
    set { editor with
      held := ⟨joined editor.held.text editor.pattern.text, editor.pattern.isClosed⟩ }
  | .recall => set { editor with pattern := editor.held }
  | .recallMore =>
    set { editor with
      pattern := ⟨joined editor.pattern.text editor.held.text, editor.held.isClosed⟩ }
  | .exchange => set { editor with pattern := editor.held, held := editor.pattern }
  | .next =>
    if ← isLast then throw (.done true)
    if !editor.manner.isSilent then emitLine .result editor.pattern
    match ← advance with
    | some pattern => modify fun editor => { editor with pattern }
    | none => throw (.done false)
  | .nextMore =>
    if ← isLast then throw (.done true)
    match ← advance with
    | some line =>
      modify fun editor =>
        { editor with
          pattern := { line with text := joined editor.pattern.text line.text } }
    | none => throw (.done true)
  | .print => emitLine .result editor.pattern
  | .printFirst =>
    let s := editor.pattern.text
    emitLine .result
      (if s.contains feed then ⟨s.takeWhile (· ≠ feed), true⟩ else editor.pattern)
  | .number => emit .result (decimal editor.count ++ [feed])
  | .show width =>
    let width := match width with
      | some width => if width = 0 then none else some width
      | none => editor.manner.width
    emit .result (shown width editor.pattern.text ++ ['$', feed])
  | .fileName => emit .result (editor.name ++ [feed])
  | .clear => set { editor with pattern := { editor.pattern with text := [] } }
  | .quit prints status => throw (.quit prints status)
  | .read name => set { editor with trailers := .file name :: editor.trailers }
  | .readLine name =>
    let s ← nextLineOf name
    if !s.isEmpty then
      modify fun editor => { editor with trailers := .text s :: editor.trailers }
  | .write name firstOnly =>
    let s := editor.pattern.text
    emitLine (targetOf name)
      (if firstOnly && s.contains feed then ⟨s.takeWhile (· ≠ feed), true⟩ else editor.pattern)
  | .substitute substitution => substitute substitution
  | .exchangeLetters pairs =>
    let text := editor.pattern.text.map fun c => (pairs.lookup c).getD c
    set { editor with pattern := { editor.pattern with text } }
  return next

/-- Runs the commands from a place on. -/
def performFrom (fuel place : Nat) : Edit Unit := do
  match fuel with
  | 0 => return
  | fuel + 1 =>
    match (← get).script.commands[place]? with
    | none => return
    | some command =>
      if (← selects place command.selector) != command.selector.negated then
        performFrom fuel (← perform place command)
      else
        match command.action with
        | .block last => performFrom fuel last
        | _ => performFrom fuel (place + 1)

/-- How many commands are run for one line at most. -/
def commandLimit : Nat := 10000000

/-- Edits the lines that are left; `isFresh` tells that the next one is to be read first. The
result is the status. -/
def editAll (fuel : Nat) (isFresh : Bool) : Edit Nat := do
  match fuel with
  | 0 => return 0
  | fuel + 1 =>
    if isFresh then
      match ← advance with
      | some pattern => modify fun editor => { editor with pattern }
      | none => return (← get).status
    let run : Edit (Option Stop) := do
      try
        performFrom commandLimit 0
        return none
      catch stop => return some stop
    match ← run with
    | none | some (.done true) =>
      finish true
      editAll fuel true
    | some (.done false) =>
      finish false
      editAll fuel true
    | some .again =>
      finish false
      editAll fuel false
    | some (.quit prints status) =>
      if prints then
        finish true
        emit .result []
      leaveRest
      closeSource
      let missed := (← get).status
      return if missed = 0 then status else missed
    | some stop => throw stop

/-- Edits the inputs of an editor. The result is the status, after a complaint if something went
wrong. -/
def editInputs : Edit Nat := do
  let run : Edit Nat := do
    try
      openWriters
      modify fun editor => { editor with ranges := openRanges editor.script.commands }
      editAll commandLimit true
    catch stop =>
      match stop with
      | .fault fault =>
        step fun process => process.complain fault.message
        return fault.status
      | .ended ending => throw (.ended ending)
      | _ => return 0
  run

end CheckedBuild.Editing
