import CheckedBuild.Machine.Tools.Columns

/-!
# Fields of lines

These tools take bytes or fields out of lines and put lines side by side.
-/

namespace CheckedBuild.Machine.Tools

open Process

/-! ### Lists of places -/

/-- A range of places, which are counted from one. Both ends belong to it; it may be open. -/
structure PlaceRange where
  low : Nat
  high : Option Nat

/-- Whether a place is in a range. -/
def PlaceRange.contains (range : PlaceRange) (n : Nat) : Bool :=
  range.low ≤ n && range.high.all fun high => decide (n ≤ high)

/-- A list of ranges that has been read in part. -/
structure RangeReader where
  ranges : List PlaceRange := []
  /-- The number in front of a dash. -/
  low : Option Nat := none
  /-- The digits that are being read. -/
  digits : List Char := []
  afterDash : Bool := false

namespace RangeReader

/-- What is wrong with a list of places of bytes, or of fields. -/
def complaint (byFields : Bool) (ofBytes ofFields : String) : List Char :=
  (if byFields then ofFields else ofBytes).toList

/-- The complaint that there is no place before the first one. -/
def notCounted (byFields : Bool) : List Char :=
  complaint byFields "byte/character positions are numbered from 1"
    "fields are numbered from 1"

/-- Adds the range that ends here. -/
def finish (reader : RangeReader) (byFields : Bool) : Except (List Char) RangeReader :=
  let number := Text.natural? reader.digits
  let add (range : PlaceRange) : Except (List Char) RangeReader :=
    .ok { ranges := reader.ranges ++ [range] }
  if reader.afterDash then
    match reader.low, number with
    | none, none => .error "invalid range with no endpoint: -".toList
    | low, none => add ⟨low.getD 1, none⟩
    | low, some high =>
      if high < low.getD 1 then .error "invalid decreasing range".toList
      else add ⟨low.getD 1, some high⟩
  else
    match number with
    | none | some 0 => .error (notCounted byFields)
    | some n => add ⟨n, some n⟩

/-- Reads a list of ranges. -/
def read (byFields : Bool) (reader : RangeReader) :
    List Char → Except (List Char) (List PlaceRange)
  | [] => (reader.finish byFields).map (·.ranges)
  | c :: rest =>
    if c = '-' then
      if reader.afterDash then
        .error (complaint byFields "invalid byte or character range" "invalid field range")
      else
        match Text.natural? reader.digits with
        | some 0 => .error (notCounted byFields)
        | low => read byFields { reader with low, digits := [], afterDash := true } rest
    else if c = ',' || c = ' ' || c = '\t' then
      match reader.finish byFields with
      | .ok reader => read byFields reader rest
      | .error message => .error message
    else if c.isDigit then
      let digits := reader.digits ++ [c]
      if largestNumber ≤ (Text.natural? digits).getD 0 then
        let number := digits ++ rest.takeWhile Char.isDigit
        .error ((complaint byFields "byte/character offset " "field number ") ++ marked number
          ++ " is too large".toList)
      else read byFields { reader with digits } rest
    else
      .error ((complaint byFields "invalid byte/character position " "invalid field value ")
        ++ marked (c :: rest))

end RangeReader

/-- Ranges in order, with those that overlap made into one. -/
def mergedRanges (ranges : List PlaceRange) : List PlaceRange :=
  (ranges.mergeSort fun a b => a.low ≤ b.low).foldr (fun range merged =>
    match merged with
    | next :: others =>
      if range.high.all fun high => decide (next.low ≤ high) then
        let high := range.high.bind fun a => next.high.map fun b => max a b
        ⟨range.low, high⟩ :: others
      else range :: merged
    | [] => [range]) []

/-- The places that are in none of some ranges, which are in order. -/
def otherRanges (start : Nat) : List PlaceRange → List PlaceRange
  | [] => [⟨start, none⟩]
  | range :: rest =>
    let before := if start < range.low then [⟨start, some (range.low - 1)⟩] else []
    match range.high with
    | none => before
    | some high => before ++ otherRanges (high + 1) rest

/-! ### Parts of lines -/

/-- What is taken out of lines. -/
structure Excerpt where
  ranges : List PlaceRange
  /-- What separates fields; without it, bytes are taken. -/
  delimiter : Option Char
  /-- What is written between the parts that are taken. -/
  joint : Option (List Char)
  ending : Char
  /-- Lines without a delimiter are left out. -/
  onlyDelimited : Bool

namespace Excerpt

/-- Whether a place is asked for. -/
def takes (excerpt : Excerpt) (n : Nat) : Bool := excerpt.ranges.any (·.contains n)

/-- The bytes of a line that are asked for. What is written between them goes between ranges. -/
def bytes (excerpt : Excerpt) (line : List Char) : List Char :=
  match excerpt.joint with
  | none => (line.zipIdx.filter fun (_, i) => excerpt.takes (i + 1)).map (·.1)
  | some joint =>
    let parts := excerpt.ranges.map fun range =>
      (line.zipIdx.filter fun (_, i) => range.contains (i + 1)).map (·.1)
    Text.joinWith joint (parts.filter fun part => !part.isEmpty)

/-- The fields of a line that are asked for. -/
def fields (excerpt : Excerpt) (delimiter : Char) (line : List Char) : List Char :=
  let joint := excerpt.joint.getD [delimiter]
  let fields := Text.pieces delimiter line
  Text.joinWith joint ((fields.zipIdx.filter fun (_, i) => excerpt.takes (i + 1)).map (·.1))

/-- What is left of a text. -/
def text (excerpt : Excerpt) (s : List Char) : List Char :=
  let ending := excerpt.ending
  -- a delimiter that also ends lines makes the text a single line
  let lines := if excerpt.delimiter = some ending then (if s.isEmpty then [] else [s])
    else linesEndedBy ending s
  lines.flatMap fun line =>
    let body := if line.getLast? = some ending then line.dropLast else line
    match excerpt.delimiter with
    | none => excerpt.bytes body ++ [ending]
    | some delimiter =>
      let isDelimited := (if delimiter = ending then line else body).contains delimiter
      if isDelimited then excerpt.fields delimiter body ++ [ending]
      else if excerpt.onlyDelimited then []
      else body ++ [ending]

end Excerpt

/-- What the options of an excerpt ask for, or what is wrong with them. -/
def excerptOf (options : Arguments) : Except (List Char) Excerpt := do
  let wrongDelimiter := (options.values 'd').any fun value => decide (1 < value.length)
  let lists := options.options.filter fun o => "bcf".toList.contains o.1
  -- the first fault among the options counts
  let delimitersBefore (n : Nat) : Bool :=
    (options.options.take n).any fun o => o.1 = 'd' && decide (1 < o.2.length)
  let second := (options.options.zipIdx.filter fun (o, _) => "bcf".toList.contains o.1)[1]?
  let wrong := "the delimiter must be a single character".toList
  if let some (_, place) := second then
    if delimitersBefore place then throw wrong
    throw "only one list may be specified".toList
  if wrongDelimiter then throw wrong
  let (letter, list) ← match lists.head? with
    | some o => pure o
    | none => throw "you must specify a list of bytes, characters, or fields".toList
  let byFields := letter = 'f'
  if !byFields then
    if options.has 'd' then
      throw "an input delimiter may be specified only when operating on fields".toList
    if options.has 's' then
      throw "suppressing non-delimited lines makes sense\n\tonly when operating on fields".toList
  let ranges := mergedRanges (← RangeReader.read byFields {} list)
  let delimiter := match options.value? 'd' with
    | some value => value.head?.getD '\x00'
    | none => '\t'
  return {
    ranges := if options.has 'α' then otherRanges 1 ranges else ranges
    delimiter := if byFields then some delimiter else none
    joint := (options.value? 'β').map fun joint => if joint.isEmpty then ['\x00'] else joint
    ending := if options.has 'z' then '\x00' else '\n'
    onlyDelimited := options.has 's' }

/-- Takes bytes or fields out of every line. -/
def cut (process : Process) : Step Nat :=
  process.withOptions
    { plain := "snz", valued := "bcfdβ"
      words := [("bytes", 'b'), ("characters", 'c'), ("fields", 'f'), ("delimiter", 'd'),
        ("only-delimited", 's'), ("zero-terminated", 'z'), ("complement", 'α'),
        ("output-delimiter", 'β')] } 1
    fun options => do
      match excerptOf options with
      | .error message => misuse process message 1
      | .ok excerpt =>
        process.mapLines options.operands excerpt.ending excerpt.text

/-! ### Lines side by side -/

/-- The delimiters in a list of them, which may be empty. There are escapes for some; a backslash
does not stand alone. -/
def delimitersOf? (s : List Char) : Option (List (List Char)) :=
  match s with
  | [] => some []
  | '\\' :: [] => none
  | '\\' :: c :: rest =>
    let delimiter := match c with
      | '0' => []
      | 'b' => ['\x08']
      | 'f' => ['\x0c']
      | 'n' => ['\n']
      | 'r' => ['\r']
      | 't' => ['\t']
      | 'v' => ['\x0b']
      | c => [c]
    (delimitersOf? rest).map (delimiter :: ·)
  | c :: rest => (delimitersOf? rest).map ([c] :: ·)

/-- Texts with the delimiters between them in turn. -/
def alternately (delimiters : List (List Char)) (texts : List (List Char)) : List Char :=
  (texts.zipIdx.map fun (s, i) =>
    if i = 0 then s else (delimiters[(i - 1) % max 1 delimiters.length]?).getD [] ++ s).flatten

/-- The bare lines of a text. -/
def bareLinesEndedBy (ending : Char) (s : List Char) : List (List Char) :=
  (linesEndedBy ending s).map fun line =>
    if line.getLast? = some ending then line.dropLast else line

/-- Writes the lines of each input side by side. -/
def pasteSerially (process : Process) (delimiters : List (List Char)) (ending : Char)
    (names : List (List Char)) : Step Nat :=
  onEach (if names.isEmpty then [['-']] else names) fun name => do
    match ← process.openInput (some name) with
    | .ok number =>
      let lines := bareLinesEndedBy ending (← readAll number)
      process.say (alternately delimiters lines ++ [ending])
      return 0
    | .error refusal =>
      -- a directory can be opened, and what is read of it is nothing
      if refusal = .isDirectory then process.say [ending]
      process.warn (process.blame name refusal)
      return 1

/-- Writes the first lines of all inputs side by side, then their second lines, and so on. -/
def pasteTogether (process : Process) (delimiters : List (List Char)) (ending : Char)
    (names : List (List Char)) : Step Nat := do
  let names := if names.isEmpty then [['-']] else names
  let opened ← names.mapM fun name => process.openInput (some name)
  let refused := (names.zip opened).filterMap fun (name, result) =>
    match result with
    | .error refusal => some (name, refusal)
    | .ok _ => none
  match refused.find? fun (_, refusal) => refusal ≠ .isDirectory with
  | some (name, refusal) =>
    process.warn (process.blame name refusal)
    return 1
  | none =>
    refused.forM fun (name, refusal) => process.warn (process.blame name refusal)
    -- standard input is read by turns if it is named more than once
    let (columns, _) ← (names.zip opened).zipIdx.foldlM
      (fun ((columns, shared) : List (List (List Char)) × Option (List (List Char)))
          ((name, result), i) => do
        let read : Step (List (List Char)) := match result with
          | .ok number => do return bareLinesEndedBy ending (← readAll number)
          | .error _ => return []
        if name = ['-'] then
          let lines ← match shared with
            | some lines => pure lines
            | none => read
          let turns := names.count ['-']
          let turn := (names.take i).count ['-']
          let own := (lines.zipIdx.filter fun (_, n) => n % turns = turn).map (·.1)
          return (columns ++ [own], some lines)
        else return (columns ++ [← read], shared)) ([], none)
    let rows := columns.foldl (fun n column => max n column.length) 0
    let columns := columns.map List.toArray
    process.say ((List.range rows).flatMap fun i =>
      alternately delimiters (columns.map fun column => (column[i]?).getD []) ++ [ending])
    return if refused.isEmpty then 0 else 1

/-- Joins the lines of its inputs side by side, or those of each input. -/
def paste (process : Process) : Step Nat :=
  process.withOptions
    { plain := "sz", valued := "d"
      words := [("serial", 's'), ("delimiters", 'd'), ("zero-terminated", 'z')] } 1
    fun options => do
      let list := (options.value? 'd').getD ['\t']
      match delimitersOf? (if list.isEmpty then ['\\', '0'] else list) with
      | none =>
        process.complain ("delimiter list ends with an unescaped backslash: ".toList
          ++ Quotation.ifNeeded process.isWide [':'] list)
        return 1
      | some delimiters =>
        let ending := if options.has 'z' then '\x00' else '\n'
        if options.has 's' then pasteSerially process delimiters ending options.operands
        else pasteTogether process delimiters ending options.operands

end CheckedBuild.Machine.Tools
