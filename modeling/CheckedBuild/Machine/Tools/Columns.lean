import CheckedBuild.Machine.Tools.Ends

/-!
# Columns

These tools know in which column each character stands: they break lines that are too wide, and
put blanks in the place of tabs or tabs in the place of blanks. A backspace goes one column back.
-/

namespace CheckedBuild.Machine.Tools

open Process

/-! ### Lines that are too wide -/

/-- How lines are broken. -/
structure Folding where
  width : Nat
  byBytes : Bool
  atBlanks : Bool

namespace Folding

/-- The column after a character. -/
def columnAfter (folding : Folding) (column : Nat) (c : Char) : Nat :=
  if folding.byBytes then column + 1
  else if c = '\x08' then column - 1
  else if c = '\r' then 0
  else if c = '\t' then (column / 8 + 1) * 8
  else column + 1

/-- The column after a piece of a line. -/
def columnOf (folding : Folding) (s : List Char) : Nat := s.foldl folding.columnAfter 0

/-- What of a piece goes into its own line, if it has to end there, and what is left of it; the
last characters of pieces come first. -/
def broken (folding : Folding) (piece : List Char) : List Char × List Char :=
  let left := piece.takeWhile fun c => !(c = ' ' || c = '\t')
  if folding.atBlanks && left.length < piece.length then (piece.drop left.length, left)
  else (piece, [])

/-- The lines of a line. A character that would be too far on the right goes to the next line,
unless it stands alone. The piece is what there is so far of the last line, backwards. -/
def fold (folding : Folding) (piece : List Char) (column : Nat) :
    List Char → List (List Char)
  | [] => [piece.reverse]
  | c :: rest =>
    let next := folding.columnAfter column c
    if next ≤ folding.width || piece.isEmpty then folding.fold (c :: piece) next rest
    else
      let (first, left) := folding.broken piece
      let next := folding.columnAfter (folding.columnOf left.reverse) c
      if next ≤ folding.width || left.isEmpty then
        first.reverse :: folding.fold (c :: left) next rest
      else
        first.reverse :: left.reverse :: folding.fold [c] (folding.columnAfter 0 c) rest

/-- A text with line feeds where its lines are broken. -/
def text (folding : Folding) (s : List Char) : List Char :=
  (linesEndedBy '\n' s).flatMap fun line =>
    let body := line.filter (· ≠ '\n')
    Text.joinWith ['\n'] (folding.fold [] 0 body) ++ line.drop body.length

end Folding

/-- Why a text is no number from one limit to another one, in the words that go after it. -/
def numberFault? (low high : Nat) (s : List Char) : Option String :=
  match Text.natural? s with
  | none => some ""
  | some n =>
    if n < low then some ": Numerical result out of range"
    else if high < n then some ": Value too large for defined data type"
    else none

/-- The largest number of a machine word. -/
def largestNumber : Nat := Nat.pow 2 64 - 1

/-- Breaks long lines. -/
def fold (process : Process) : Step Nat :=
  process.withOptions
    { plain := "bs", valued := "w", attached := "0123456789"
      words := [("width", 'w'), ("spaces", 's'), ("bytes", 'b')] } 1
    fun options => do
      let widths := options.options.filterMap fun (letter, value) =>
        if letter = 'w' then some value else if letter.isDigit then some (letter :: value)
        else none
      let wrong? := widths.findSome? fun value =>
        (numberFault? 1 (largestNumber - 9) value).map fun reason => (value, reason)
      match wrong? with
      | some (value, reason) =>
        process.complain
          ("invalid number of columns: ".toList ++ marked value ++ reason.toList)
        return 1
      | none =>
        let width := (widths.getLast?.bind Text.natural?).getD 80
        let folding : Folding := ⟨width, options.has 'b', options.has 's'⟩
        process.mapLines options.operands '\n' folding.text

/-! ### Tabs -/

/-- Where tabs lead to: to the columns of a list, and behind these to multiples of a number, or to
columns at equal distances from the last one. -/
structure TabStops where
  columns : List Nat := []
  multiples : Nat := 0
  distance : Nat := 0

namespace TabStops

/-- The next column that a tab leads to. -/
def next? (stops : TabStops) (column : Nat) : Option Nat :=
  match stops.columns.find? (column < ·) with
  | some stop => some stop
  | none =>
    if 0 < stops.multiples then some ((column / stops.multiples + 1) * stops.multiples)
    else if 0 < stops.distance then
      let last := stops.columns.getLast?.getD 0
      some (last + ((column - last) / stops.distance + 1) * stops.distance)
    else none

/-- What is wrong with a list of columns. -/
def fault? (stops : TabStops) : Option String :=
  if stops.columns.contains 0 then some "tab size cannot be 0"
  else if !(stops.columns.zip stops.columns.tail).all fun (a, b) => decide (a < b) then
    some "tab sizes must be ascending"
  else if 0 < stops.multiples && 0 < stops.distance then
    some "'/' specifier is mutually exclusive with '+'"
  else none

/-- A single column stands for its multiples, and no column for every eighth. -/
def simplified (stops : TabStops) : TabStops :=
  match stops with
  | ⟨[], 0, 0⟩ => { multiples := 8 }
  | ⟨[], 0, distance⟩ => { multiples := distance }
  | ⟨[column], 0, 0⟩ => { multiples := column }
  | _ => stops

end TabStops

/-- What has been read of the tab stops: which of the marks stands before the number that is
being read, its digits so far, and the complaints. -/
structure TabReader where
  stops : TabStops
  mark : Option Char := none
  digits : List Char := []
  complaints : List (List Char) := []

namespace TabReader

/-- Adds what a number that has been read stands for. -/
def finish (reader : TabReader) : TabReader :=
  match Text.natural? reader.digits with
  | none => reader
  | some n =>
    let stops := reader.stops
    let twice (mark : String) (old : Nat) (new : TabStops) : TabReader :=
      if 0 < old then
        { reader with
          digits := []
          complaints := reader.complaints
            ++ [(mark ++ " specifier only allowed with the last value").toList] }
      else { reader with stops := new, digits := [] }
    if largestNumber < n then
      { reader with
        digits := []
        complaints :=
          reader.complaints ++ ["tab stop is too large ".toList ++ marked reader.digits] }
    else
      match reader.mark with
      | some '/' => twice "'/'" stops.multiples { stops with multiples := n }
      | some _ => twice "'+'" stops.distance { stops with distance := n }
      | none => { reader with
          stops := { stops with columns := stops.columns ++ [n] }, digits := [] }

/-- Reads tab stops. -/
def read (reader : TabReader) : List Char → TabReader
  | [] => reader.finish
  | c :: rest =>
    if c = ',' || c = ' ' || c = '\t' then reader.finish.read rest
    else if c = '/' || c = '+' then
      let reader := { reader with
        mark := some c
        complaints := reader.complaints
          ++ (if reader.digits.isEmpty then []
            else [['\'', c] ++ "' specifier not at start of number: ".toList
              ++ marked (c :: rest)]) }
      reader.read rest
    else if c.isDigit then { reader with digits := reader.digits ++ [c] }.read rest
    else
      { reader with complaints := reader.complaints
          ++ ["tab size contains invalid character(s): ".toList ++ marked (c :: rest)] }

end TabReader

/-- Runs a step with the tab stops that are asked for. -/
def withTabStops (process : Process) (stops : TabStops) (lists : List (List Char))
    (step : TabStops → Step Nat) : Step Nat := do
  let (stops, complaints) := lists.foldl (fun (stops, complaints) list =>
    if complaints.isEmpty then
      let reader := TabReader.read { stops } list
      (reader.stops, reader.complaints)
    else (stops, complaints)) (stops, ([] : List (List Char)))
  complaints.forM process.complain
  if !complaints.isEmpty then return 1
  match stops.fault? with
  | some message =>
    process.complain message.toList
    return 1
  | none => step stops.simplified

/-- Puts blanks in the place of tabs, in the whole of each line or only up to the first character
that is no blank. The column and whether there are still tabs to replace are carried on. -/
def withoutTabs (stops : TabStops) (wholeLine : Bool) (column : Nat) (converts : Bool)
    (s : List Char) : List Char × Nat × Bool :=
  let (text, column, converts) := s.foldl (fun (text, column, converts) c =>
    if c = '\n' then (c :: text, 0, true)
    else if !converts then (c :: text, column, converts)
    else
      let converts := wholeLine || c = ' ' || c = '\t'
      if c = '\t' then
        let stop := (stops.next? column).getD (column + 1)
        (List.replicate (stop - column) ' ' ++ text, stop, converts)
      else if c = '\x08' then (c :: text, column - 1, converts)
      else (c :: text, column + 1, converts)) (([] : List Char), column, converts)
  (text.reverse, column, converts)

/-- Puts blanks in the place of tabs. -/
def expandTabs (process : Process) : Step Nat :=
  process.withOptions
    { plain := "i", valued := "t", attached := "0123456789"
      words := [("tabs", 't'), ("initial", 'i')] } 1
    fun options => do
      let lists := options.options.filterMap fun (letter, value) =>
        if letter = 't' then some value else if letter.isDigit then some (letter :: value)
        else none
      withTabStops process {} lists fun stops => do
        let (_, status) ← process.foldInputs options.operands (0, true)
          fun (column, converts) s => do
            let (text, state) := withoutTabs stops (!options.has 'i') column converts s
            process.print text
            return state
        return status

/-- What is known while tabs are put in the place of blanks. -/
structure TabMaker where
  converts : Bool := true
  column : Nat := 0
  /-- Blanks that have not been written yet. -/
  pending : List Char := []
  /-- The last character was a blank. -/
  afterBlank : Bool := true
  /-- The pending blanks begin with one that reaches a tab stop on its own. -/
  reachesStop : Bool := false

namespace TabMaker

/-- The pending blanks as they are written. -/
def flushed (maker : TabMaker) : List Char :=
  if 1 < maker.pending.length && maker.reachesStop then '\t' :: maker.pending.drop 1
  else maker.pending

/-- Writes the pending blanks and a character. -/
def write (maker : TabMaker) (c : Char) (wholeLine isBlank : Bool) : List Char × TabMaker :=
  (maker.flushed ++ [c],
    { maker with
      pending := [], reachesStop := false, afterBlank := isBlank
      converts := maker.converts && (wholeLine || isBlank) })

/-- Deals with a character. -/
def step (stops : TabStops) (wholeLine : Bool) (maker : TabMaker) (c : Char) :
    List Char × TabMaker :=
  if c = '\n' then (maker.flushed ++ [c], {})
  else if !maker.converts then ([c], maker)
  else if c = ' ' || c = '\t' then
    match stops.next? maker.column with
    | none => { maker with converts := false }.write c wholeLine true
    | some stop =>
      -- a single blank in front of a tab stop stays a blank unless more blanks follow
      let kept (first : List Char) : List Char :=
        if maker.reachesStop then first.take 1 else []
      if c = '\t' then
        let pending := if maker.pending.isEmpty then [] else ['\t']
        { maker with column := stop, pending := kept pending }.write c wholeLine true
      else
        let column := maker.column + 1
        if maker.afterBlank && column = stop then
          let pending := if maker.pending.isEmpty then [] else ['\t']
          { maker with column, pending := kept pending }.write '\t' wholeLine true
        else
          ([], { maker with
            column, afterBlank := true, pending := maker.pending ++ [c]
            reachesStop := maker.reachesStop || column = stop })
  else
    let column := if c = '\x08' then maker.column - 1 else maker.column + 1
    { maker with column }.write c wholeLine false

end TabMaker

/-- Puts tabs in the place of blanks. -/
def unexpand (process : Process) : Step Nat :=
  process.withOptions
    { plain := "a,0123456789", valued := "t"
      words := [("all", 'a'), ("tabs", 't'), ("first-only", 'α')] } 1
    fun options => do
      -- digits among the options make numbers, which commas end
      let listed := options.options.filterMap fun (letter, _) =>
        if letter.isDigit || letter = ',' then some letter else none
      let lists := (if listed.isEmpty then [] else [listed]) ++ options.values 't'
      let wholeLine := (options.has 'a' || options.has 't') && !options.has 'α'
      withTabStops process {} lists fun stops => do
        let (maker, status) ← process.foldInputs options.operands ({} : TabMaker)
          fun maker s => do
            let (text, maker) := s.foldl (fun (text, maker) c =>
              let (more, maker) := TabMaker.step stops wholeLine maker c
              (more.reverse ++ text, maker)) (([] : List Char), maker)
            process.print text.reverse
            return maker
        process.print maker.flushed
        return status

end CheckedBuild.Machine.Tools
