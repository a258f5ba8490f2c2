import CheckedBuild.Machine.Tools.Counting
import CheckedBuild.Text.Collation

/-!
# Sorting lines

Lines are compared by keys, which are parts of them between two positions, and then as a whole.
What is compared of a part depends on its key: its bytes, some of its characters, or the number,
the month or the version that it begins with.
-/

namespace CheckedBuild.Machine.Tools

open Process

/-- A position in a line: so many fields are passed over, and then so many characters. -/
structure Position where
  fields : Nat
  characters : Nat := 0
  skipsBlanks : Bool := false

/-- Which characters are left out when texts are compared. -/
inductive Ignored where
  | nothing
  | unprintable
  | punctuation
deriving DecidableEq, Repr

/-- A part of lines by which they are compared. -/
structure SortKey where
  start : Position := ⟨0, 0, false⟩
  /-- Where the part ends. If it ends with a field, no characters are given. -/
  stop : Option Position := none
  ignored : Ignored := .nothing
  folds : Bool := false
  numeric : Bool := false
  real : Bool := false
  amount : Bool := false
  month : Bool := false
  version : Bool := false
  random : Bool := false
  reverse : Bool := false

namespace SortKey

/-- Blanks in front of the end of a part are passed over. -/
def skipsAtEnd (key : SortKey) : Bool := key.stop.any (·.skipsBlanks)

/-- Nothing is said about how parts are compared, except for the direction. -/
def isUsual (key : SortKey) : Bool :=
  key.ignored = .nothing && !key.folds && !key.start.skipsBlanks && !key.skipsAtEnd
    && !key.numeric && !key.real && !key.amount && !key.month && !key.version && !key.random

/-- The letters for how parts are compared. -/
def letters (key : SortKey) : List Char :=
  "dfghiMnRV".toList.filter fun
    | 'd' => key.ignored = .punctuation
    | 'f' => key.folds
    | 'g' => key.real
    | 'h' => key.amount
    | 'i' => key.ignored = .unprintable
    | 'M' => key.month
    | 'n' => key.numeric
    | 'R' => key.random
    | _ => key.version

/-- More than one way to compare is asked for. -/
def isContradictory (key : SortKey) : Bool :=
  let others := key.version || key.random || key.ignored ≠ .nothing
  1 < [key.numeric, key.real, key.amount, key.month, others].count true

/-- Applies a letter to a key, at its start or at its end. -/
def withLetter (atStart : Bool) (key : SortKey) (letter : Char) : SortKey :=
  match letter with
  | 'b' =>
    if atStart then { key with start := { key.start with skipsBlanks := true } }
    else { key with stop := key.stop.map fun stop => { stop with skipsBlanks := true } }
  | 'd' => { key with ignored := .punctuation }
  | 'f' => { key with folds := true }
  | 'g' => { key with real := true }
  | 'h' => { key with amount := true }
  | 'i' => if key.ignored = .nothing then { key with ignored := .unprintable } else key
  | 'M' => { key with month := true }
  | 'n' => { key with numeric := true }
  | 'R' => { key with random := true }
  | 'V' => { key with version := true }
  | 'r' => { key with reverse := true }
  | _ => key

/-- The letters that say how parts are compared. -/
def letterSet : List Char := "bdfghiMnRrV".toList

end SortKey

/-- Reads a count. The complaint tells where it is missing. -/
def readCount (place : String) (s : List Char) : Except (List Char) (Nat × List Char) :=
  let digits := s.takeWhile Char.isDigit
  match Text.natural? digits with
  | some n => .ok (n, s.drop digits.length)
  | none =>
    .error (("invalid number " ++ place ++ ": invalid count at start of ").toList ++ marked s)

/-- Reads a key. -/
def readKey (s : List Char) : Except (List Char) SortKey := do
  let wrong (what : String) : List Char :=
    (what ++ ": invalid field specification ").toList ++ marked s
  let letters (rest : List Char) : List Char := rest.takeWhile SortKey.letterSet.contains
  let (field, rest) ← readCount "at field start" s
  if field = 0 then throw (wrong "field number is zero")
  let (character, rest) ← match rest with
    | '.' :: rest => readCount "after '.'" rest
    | rest => pure (1, rest)
  if character = 0 then throw (wrong "character offset is zero")
  let key : SortKey := { start := ⟨field - 1, character - 1, false⟩ }
  let key := (letters rest).foldl (SortKey.withLetter true) key
  match rest.drop (letters rest).length with
  | [] => return key
  | ',' :: rest =>
    let (field, rest) ← readCount "after ','" rest
    if field = 0 then throw (wrong "field number is zero")
    let (character, rest) ← match rest with
      | '.' :: rest => readCount "after '.'" rest
      | rest => pure (0, rest)
    -- the end of a field is the start of the next one
    let fields := if character = 0 then field else field - 1
    let key := { key with stop := some ⟨fields, character, false⟩ }
    let key := (letters rest).foldl (SortKey.withLetter false) key
    if rest.length = (letters rest).length then return key
    throw (wrong "stray character in field spec")
  | _ => throw (wrong "stray character in field spec")

/-! ### Parts of lines -/

/-- Passes over so many fields. A separator behind the last one is passed over only if that is
asked for; without a separator the blanks in front of a field belong to it. -/
def afterFields (separator : Option Char) (passesLast : Bool) : Nat → List Char → List Char
  | 0, s => s
  | n + 1, s =>
    if s.isEmpty then s
    else
      match separator with
      | some c =>
        let rest := s.dropWhile (· ≠ c)
        afterFields separator passesLast n (if n = 0 && !passesLast then rest else rest.drop 1)
      | none =>
        let rest := (s.dropWhile Text.Collation.isBlank).dropWhile fun c => !Text.Collation.isBlank c
        afterFields separator passesLast n rest

/-- What follows a position of a line. -/
def afterPosition (separator : Option Char) (isStop : Bool) (position : Position)
    (line : List Char) : List Char :=
  let endsWithField := isStop && position.characters = 0
  let rest := afterFields separator (!endsWithField) position.fields line
  let rest := if position.skipsBlanks && !endsWithField then
      rest.dropWhile Text.Collation.isBlank
    else rest
  rest.drop position.characters

/-- The part of a line that a key takes. -/
def SortKey.part (key : SortKey) (separator : Option Char) (line : List Char) : List Char :=
  let rest := afterPosition separator false key.start line
  match key.stop with
  | none => rest
  | some stop =>
    let left := (afterPosition separator true stop line).length
    rest.take (rest.length - left)

/-- What is compared of a part as a text. -/
def SortKey.shown (key : SortKey) (s : List Char) : List Char :=
  let kept := match key.ignored with
    | .nothing => s
    | .unprintable => s.filter fun c => ' ' ≤ c && c ≤ '~'
    | .punctuation => s.filter fun c => c.isAlphanum || Text.Collation.isBlank c
  if key.folds then kept.map Char.toUpper else kept

/-- Compares two parts of lines as a key says. -/
def SortKey.compareParts (key : SortKey) (a b : List Char) : Ordering :=
  let (a, b) := (key.shown a, key.shown b)
  let order :=
    if key.numeric then Text.Collation.byNumber a b
    else if key.real then Text.Collation.byReal a b
    else if key.amount then Text.Collation.byAmount a b
    else if key.month then compare (Text.Collation.monthOf a) (Text.Collation.monthOf b)
    else if key.version then Text.Collation.byVersion a b
    else Text.Collation.compareBytes a b
  if key.reverse then order.swap else order

/-! ### Order of lines -/

/-- How lines are compared. -/
structure SortOrder where
  keys : List SortKey := []
  separator : Option Char := none
  reverse : Bool := false
  /-- Lines with equal keys keep their order. -/
  stable : Bool := false
  /-- Of several lines that are equal, only the first one is kept. -/
  unique : Bool := false
  ending : Char := '\n'

/-- A line with the parts that are compared. -/
structure SortLine where
  parts : List (List Char)
  text : List Char

namespace SortOrder

/-- A line with its parts. -/
def prepared (order : SortOrder) (line : List Char) : SortLine :=
  ⟨order.keys.map fun key => key.part order.separator line, line⟩

/-- Compares two lines by their parts. -/
def compareParts : List SortKey → List (List Char) → List (List Char) → Ordering
  | key :: keys, x :: xs, y :: ys => (key.compareParts x y).then (compareParts keys xs ys)
  | _, _, _ => .eq

/-- Compares two lines. Lines with equal keys are compared as a whole. -/
def compareLines (order : SortOrder) (a b : SortLine) : Ordering :=
  let byKeys := compareParts order.keys a.parts b.parts
  if byKeys ≠ .eq || (!order.keys.isEmpty && (order.stable || order.unique)) then byKeys
  else
    let whole := Text.Collation.compareBytes a.text b.text
    if order.reverse then whole.swap else whole

/-- Drops lines that are equal to the one before, if that is asked for. -/
def dropRepeated (order : SortOrder) (lines : List SortLine) : List SortLine :=
  if !order.unique then lines
  else
    (lines.foldl (fun (kept : List SortLine) line =>
      match kept with
      | last :: _ => if order.compareLines last line = .eq then kept else line :: kept
      | [] => [line]) []).reverse

/-- Lines in order. -/
def sorted (order : SortOrder) (lines : List (List Char)) : List (List Char) :=
  let sorted := (lines.map order.prepared).mergeSort fun a b => order.compareLines a b ≠ .gt
  (order.dropRepeated sorted).map (·.text)

/-- Two lists of lines made into one: of their first lines the smaller one comes first. -/
def merge (order : SortOrder) (fuel : Nat) (left right : List SortLine) : List SortLine :=
  match fuel, left, right with
  | 0, _, _ | _, [], _ => left ++ right
  | _, _, [] => left
  | fuel + 1, a :: as, b :: bs =>
    if order.compareLines a b ≠ .gt then a :: merge order fuel as right
    else b :: merge order fuel left bs

/-- Lines of several inputs, which are in order already, made into one list. -/
def merged (order : SortOrder) (inputs : List (List (List Char))) : List (List Char) :=
  let lists := inputs.map fun lines => lines.map order.prepared
  let all := lists.foldl (fun all lines => order.merge (all.length + lines.length) all lines) []
  (order.dropRepeated all).map (·.text)

/-- The first line that is out of order, with its number. -/
def misplaced? (order : SortOrder) (lines : List (List Char)) : Option (Nat × List Char) :=
  let lines := lines.map order.prepared
  let isWrong (a b : SortLine) : Bool :=
    match order.compareLines a b with
    | .gt => true
    | .eq => order.unique
    | .lt => false
  (((lines.zip lines.tail).zipIdx).find? fun ((a, b), _) => isWrong a b).map
    fun ((_, b), i) => (i + 2, b.text)

end SortOrder

/-! ### Options -/

/-- What the options of a sorting ask for. -/
structure SortTask where
  keys : List SortKey := []
  general : SortKey := {}
  separator : Option Char := none
  output : Option (List Char) := none
  /-- The letter for how order is checked. -/
  check : Option Char := none

/-- The ways to sort that have a name. -/
def sortWords : List (String × Char) :=
  [("general-numeric", 'g'), ("human-numeric", 'h'), ("month", 'M'), ("numeric", 'n'),
    ("random", 'R'), ("version", 'V')]

/-- The ways to check that have a name. -/
def checkWords : List String := ["quiet", "silent", "diagnose-first"]

/-- The complaint about letters that do not go together. -/
def incompatible (letters : List Char) : List Char :=
  "options '-".toList ++ letters ++ "' are incompatible".toList

/-- Adds what an option asks for, or says what is wrong with it and whether advice is given. -/
def SortTask.withOption (task : SortTask) (letter : Char) (value : List Char) :
    Except (List Char × Bool) SortTask :=
  let plainly {α : Type} (message : List Char) : Except (List Char × Bool) α :=
    .error (message, false)
  let check (letter : Char) : Except (List Char × Bool) SortTask :=
    if task.check.any (· ≠ letter) then plainly (incompatible "cC".toList)
    else .ok { task with check := some letter }
  match letter with
  | 'k' =>
    match readKey value with
    | .ok key => .ok { task with keys := task.keys ++ [key] }
    | .error message => plainly message
  | 't' =>
    let separator? : Except (List Char × Bool) Char := match value with
      | [] => plainly "empty tab".toList
      | [c] => .ok c
      | ['\\', '0'] => .ok '\x00'
      | _ => plainly ("multi-character tab ".toList ++ marked value)
    separator?.bind fun separator =>
      if task.separator.any (· ≠ separator) then plainly "incompatible tabs".toList
      else .ok { task with separator := some separator }
  | 'o' =>
    if task.output.any (· ≠ value) then plainly "multiple output files specified".toList
    else .ok { task with output := some value }
  | 'c' | 'C' => check letter
  | 'α' =>
    if value.isEmpty then check 'c'
    else
      match chosenWord? checkWords value with
      | some "diagnose-first" => check 'c'
      | some _ => check 'C'
      | none =>
        .error ("invalid argument ".toList ++ marked value
          ++ " for '--check'\nValid arguments are:\n  - 'quiet', 'silent'\n".toList
          ++ "  - 'diagnose-first'".toList, true)
  | 'β' =>
    match (chosenWord? (sortWords.map (·.1)) value).bind fun word => sortWords.lookup word with
    | some letter => .ok { task with general := task.general.withLetter true letter }
    | none => .error (wrongWord "--sort" (sortWords.map (·.1)) value, true)
  | 'S' =>
    let digits := value.takeWhile Char.isDigit
    let unit := value.drop digits.length
    if digits.isEmpty || !(unit.isEmpty || "bEGgKkMmPTtYZ%".toList.any fun c => unit = [c]) then
      plainly ("invalid -S argument ".toList ++ marked value)
    else .ok task
  | 'ε' =>
    match Text.natural? value with
    | none => plainly ("invalid --parallel argument ".toList ++ marked value)
    | some 0 => plainly "number in parallel must be nonzero".toList
    | some _ => .ok task
  | 'ζ' =>
    match Text.natural? value with
    | none => plainly ("invalid --batch-size argument ".toList ++ marked value)
    | some n =>
      if n < 2 then
        plainly ("invalid --batch-size argument ".toList ++ marked value
          ++ "\nminimum --batch-size argument is '2'".toList)
      else .ok task
  | letter => .ok { task with general := task.general.withLetter true letter }

/-- Keys that do not say how they are compared are compared as the options say. -/
def SortTask.allKeys (task : SortTask) : List SortKey :=
  let general := task.general
  if task.keys.isEmpty then (if general.isUsual then [] else [general])
  else
    task.keys.map fun key =>
      if !key.isUsual || key.reverse then key
      else
        let skips := general.start.skipsBlanks
        { general with
          start := { key.start with skipsBlanks := skips }
          stop := key.stop.map fun stop => { stop with skipsBlanks := skips } }

/-- A count, another one behind a point, and what follows them. -/
def oldPosition (s : List Char) : Nat × Nat × List Char :=
  let digits := s.takeWhile Char.isDigit
  let n := (Text.natural? digits).getD 0
  match s.drop digits.length with
  | '.' :: rest =>
    let digits := rest.takeWhile Char.isDigit
    (n, (Text.natural? digits).getD 0, rest.drop digits.length)
  | rest => (n, 0, rest)

/-- A key in its old spelling, a position after a plus sign and perhaps one after a dash in the
next argument, as an option; and whether the next argument belongs to it. -/
def oldKey? (s next : List Char) : Option (List Char × Bool) :=
  let dotted (field character : Nat) (letters : List Char) : List Char :=
    decimal field ++ '.' :: decimal character ++ letters
  match s with
  | '+' :: c :: more =>
    let (field, character, letters) := oldPosition (c :: more)
    if !c.isDigit || !letters.all SortKey.letterSet.contains then none
    else
      let start := "-k".toList ++ dotted (field + 1) (character + 1) letters
      let stop? : Option (List Char) := match next with
        | '-' :: d :: digits => if d.isDigit then some (d :: digits) else none
        | _ => none
      match stop? with
      | none => some (start, false)
      | some stop =>
        let (field, character, letters) := oldPosition stop
        let stop := if character = 0 then decimal field ++ letters
          else dotted (field + 1) character letters
        some (start ++ ',' :: stop, true)
  | _ => none

/-- The arguments with old keys as options. -/
def withoutOldKeys : List (List Char) → List (List Char)
  | [] => []
  | [s] => [((oldKey? s []).map (·.1)).getD s]
  | s :: next :: rest =>
    if s = "--".toList then s :: next :: rest
    else
      match oldKey? s next with
      | some (key, true) => key :: withoutOldKeys rest
      | some (key, false) => key :: withoutOldKeys (next :: rest)
      | none => s :: withoutOldKeys (next :: rest)

/-- Reports what went wrong with an input or with the output. -/
def sortFault (process : Process) (what : String) (name : List Char) (refusal : Refusal) :
    Step Nat := do
  process.complain ((what ++ ": ").toList ++ Quotation.ifNeeded process.isWide [':'] name
    ++ ": ".toList ++ refusal.complaint.toList)
  return 2

/-- The lines of an input. -/
def sortInput (process : Process) (order : SortOrder) (name : List Char) :
    Step (Except Refusal (List (List Char))) := do
  match ← process.openInput (some name) with
  | .ok number => return .ok (bareLinesEndedBy order.ending (← readAll number))
  | .error refusal => return .error refusal

/-- Checks whether the lines of an input are in order. -/
def checkOrder (process : Process) (order : SortOrder) (tells : Bool) (name : List Char) :
    Step Nat := do
  match ← sortInput process order name with
  | .error refusal =>
    let what := if refusal = .isDirectory then "read failed" else "open failed"
    sortFault process what name refusal
  | .ok lines =>
    match order.misplaced? lines with
    | none => return 0
    | some (number, line) =>
      if tells then
        process.complain (name ++ ':' :: decimal number ++ ": disorder: ".toList ++ line)
      return 1

/-- Sorts or merges the lines of inputs. -/
def sortInputs (process : Process) (order : SortOrder) (merges : Bool)
    (output : Option (List Char)) (names : List (List Char)) : Step Nat := do
  -- nothing is done unless all inputs can be opened
  let unreadable ← names.findSomeM? fun name => do
    if name = ['-'] then return none
    let kernel ← get
    match kernel.openForReading process.descriptors (textOfRaw name) with
    | .ok _ => return none
    | .error refusal => return some (name, refusal)
  if let some (name, refusal) := unreadable then
    return ← sortFault process "cannot read" name refusal
  let target? : Except Refusal (Option Nat) ← match output with
    | none => pure (.ok none)
    | some name =>
      modifyGet fun kernel : Kernel =>
        match kernel.openForWriting process.descriptors .append (textOfRaw name) with
        | .ok (number, kernel) => (.ok (some number), kernel)
        | .error refusal => (.error refusal, kernel)
  match target? with
  | .error refusal => sortFault process "open failed" (output.getD []) refusal
  | .ok _ =>
    let read ← names.foldlM
      (fun (read : Except (List Char × Refusal) (List (List (List Char)))) name => do
        match read with
        | .error fault => return .error fault
        | .ok inputs =>
          match ← sortInput process order name with
          | .ok lines => return .ok (inputs ++ [lines])
          | .error refusal => return .error (name, refusal)) (.ok [])
    match read with
    | .error (name, refusal) => sortFault process "read failed" name refusal
    | .ok inputs =>
      let lines := if merges then order.merged inputs else order.sorted inputs.flatten
      let text := lines.flatMap (· ++ [order.ending])
      match output with
      | none => process.say text
      | some name =>
        modify fun kernel : Kernel =>
          match kernel.openForWriting process.descriptors (.write true) (textOfRaw name) with
          | .ok (number, kernel) => kernel.write number (bytesOfRaw text)
          | .error _ => kernel
      return 0

/-- Sorts the lines of its inputs. -/
def sort (process : Process) : Step Nat :=
  let process := { process with arguments := withoutOldKeys process.arguments }
  process.withOptions
    { plain := "bdfghiMnRrVsucCmz", valued := "kotSTyβγδεζη"
      words := [("reverse", 'r'), ("numeric-sort", 'n'), ("unique", 'u'), ("key", 'k'),
        ("field-separator", 't'), ("output", 'o'), ("ignore-case", 'f'), ("stable", 's'),
        ("check", 'α'), ("ignore-leading-blanks", 'b'), ("merge", 'm'), ("dictionary-order", 'd'),
        ("ignore-nonprinting", 'i'), ("general-numeric-sort", 'g'), ("human-numeric-sort", 'h'),
        ("month-sort", 'M'), ("random-sort", 'R'), ("version-sort", 'V'), ("sort", 'β'),
        ("zero-terminated", 'z'), ("buffer-size", 'S'), ("temporary-directory", 'T'),
        ("files0-from", 'γ'), ("compress-program", 'δ'), ("parallel", 'ε'), ("batch-size", 'ζ'),
        ("random-source", 'η')] } 2
    fun options => do
      let read := options.options.foldlM (fun (task : SortTask) (letter, value) =>
        task.withOption letter value) {}
      match read with
      | .error (message, true) => misuse process message 1
      | .error (message, false) =>
        (Text.pieces '\n' message).forM process.complain
        return 2
      | .ok task =>
        match ← namesOf process 'γ' (fun refusal => "open failed: ".toList
            ++ (options.value? 'γ').getD [] ++ ": ".toList ++ refusal.complaint.toList)
            options with
        | .error (message, true) => misuse process message 2
        | .error (message, false) =>
          process.complain message
          return 2
        | .ok operands =>
          let keys := task.allKeys
          if let some key := keys.find? SortKey.isContradictory then
            process.complain (incompatible key.letters)
            return 2
          let order : SortOrder :=
            { keys, reverse := options.has 'r', separator := task.separator
              stable := options.has 's', unique := options.has 'u'
              ending := if options.has 'z' then '\x00' else '\n' }
          if options.has 'γ' && operands.isEmpty then
            process.complain ("no input from ".toList ++ marked ((options.value? 'γ').getD []))
            return 2
          let names := if operands.isEmpty then [['-']] else operands
          match task.check with
          | some letter =>
            if let some extra := names[1]? then
              process.complain ("extra operand ".toList ++ marked extra
                ++ " not allowed with -".toList ++ [letter])
              return 2
            if task.output.isSome then
              process.complain (incompatible [letter, 'o'])
              return 2
            checkOrder process order (letter = 'c') (names.headD [])
          | none => sortInputs process order (options.has 'm') task.output names

end CheckedBuild.Machine.Tools
