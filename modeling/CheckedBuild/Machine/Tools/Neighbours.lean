import CheckedBuild.Machine.Tools.Fields
import CheckedBuild.Machine.Tools.Format

/-!
# Lines compared with their neighbours

These tools compare each line with the one before it, or the lines of two sorted inputs with each
other.
-/

namespace CheckedBuild.Machine.Tools

open Process

/-- One of some words, which may be shortened as long as it is not mistaken. -/
def chosenWord? (words : List String) (s : List Char) : Option String :=
  match words.find? fun word => word.toList = s with
  | some word => some word
  | none =>
    match words.filter fun word => s.isPrefixOf word.toList with
    | [word] => some word
    | _ => none

/-- The complaint that a value is none of some words, or that it stands for more than one. -/
def wrongWord (option : String) (words : List String) (s : List Char) : List Char :=
  let isShort := words.any fun word => s.isPrefixOf word.toList
  (if isShort then "ambiguous argument " else "invalid argument ").toList ++ marked s
    ++ " for ".toList ++ marked option.toList ++ "\nValid arguments are:".toList
    ++ words.flatMap fun word => "\n  - ".toList ++ marked word.toList

/-! ### Repeated lines -/

/-- How lines are compared, and which of them are shown. -/
structure Repetition where
  skippedFields : Nat := 0
  skippedBytes : Nat := 0
  comparedBytes : Option Nat := none
  ignoresCase : Bool := false
  counts : Bool := false
  /-- Lines without an equal neighbour are shown. -/
  showsSingle : Bool := true
  /-- The first ones of equal lines are shown. -/
  showsFirst : Bool := true
  /-- All other ones of equal lines are shown. -/
  showsOthers : Bool := false
  /-- How the groups of repeated lines are set apart. -/
  apart : String := "none"
  /-- How all groups are set apart, if all lines are shown. -/
  grouping : Option String := none
  ending : Char := '\n'

namespace Repetition

/-- What is compared of a line. -/
def key (repetition : Repetition) (line : List Char) : List Char :=
  let isBlank (c : Char) : Bool := c = ' ' || c = '\t' || c = '\n'
  let line := (List.range (min repetition.skippedFields line.length)).foldl (fun line _ =>
    (line.dropWhile isBlank).dropWhile fun c => !isBlank c) line
  let line := line.drop repetition.skippedBytes
  let line := match repetition.comparedBytes with
    | some n => line.take n
    | none => line
  if repetition.ignoresCase then line.map Char.toLower else line

/-- Equal neighbours in groups. -/
def groups (repetition : Repetition) (lines : List (List Char)) : List (List (List Char)) :=
  let keyed := lines.map fun line => (repetition.key line, line)
  (keyed.splitBy fun a b => a.1 == b.1).map fun group => group.map (·.2)

/-- The lines of a group that are shown, each with how many lines it stands for. -/
def shown (repetition : Repetition) (group : List (List Char)) : List (Nat × List Char) :=
  match group with
  | [] => []
  | [line] => if repetition.showsSingle then [(1, line)] else []
  | line :: _ =>
    if repetition.showsOthers then
      let lines := if repetition.showsFirst then group else group.dropLast
      lines.map fun line => (1, line)
    else if repetition.showsFirst then [(group.length, line)]
    else []

/-- The text of a group. -/
def groupText (repetition : Repetition) (group : List (List Char)) : List Char :=
  (repetition.shown group).flatMap fun (n, line) =>
    let count :=
      if repetition.counts then ({ width := 7 } : Format.Field).text (decimal n) ++ [' '] else []
    count ++ line ++ [repetition.ending]

/-- What is shown of some lines. -/
def text (repetition : Repetition) (lines : List (List Char)) : List Char :=
  let groups := repetition.groups lines
  let ending := [repetition.ending]
  match repetition.grouping with
  | some grouping =>
    let texts := groups.map fun group => group.flatMap (· ++ ending)
    if texts.isEmpty then []
    else
      let first := if grouping = "prepend" || grouping = "both" then ending else []
      let last := if grouping = "append" || grouping = "both" then ending else []
      first ++ Text.joinWith ending texts ++ last
  | none =>
    let (text, _) := groups.foldl (fun (text, seen) group =>
      let isRepeated := 1 < group.length
      let front := if isRepeated && (repetition.apart = "prepend"
        || (repetition.apart = "separate" && seen)) then ending else []
      (repetition.groupText group :: front :: text, seen || isRepeated))
      (([] : List (List Char)), false)
    text.reverse.flatten

end Repetition

/-- The ways to set groups of repeated lines apart. -/
def apartWords : List String := ["none", "prepend", "separate"]

/-- The ways to set all groups apart. -/
def groupingWords : List String := ["prepend", "append", "separate", "both"]

/-- What the options ask for, or what is wrong and whether advice is given. -/
def repetitionOf (options : Arguments) : Except (List Char × Bool) Repetition := do
  let number (what : String) (value : List Char) : Except (List Char × Bool) Nat :=
    match Text.natural? value with
    | some n => .ok n
    | none => .error (value ++ (": invalid number of " ++ what).toList, false)
  let (repetition, _) ← options.options.foldlM
    (fun ((repetition, isOld) : Repetition × Bool) (letter, value) => do
      let keep (repetition : Repetition) : Except (List Char × Bool) (Repetition × Bool) :=
        .ok (repetition, isOld)
      match letter with
      | 'c' => keep { repetition with counts := true }
      | 'd' => keep { repetition with showsSingle := false }
      | 'u' => keep { repetition with showsFirst := false }
      | 'i' => keep { repetition with ignoresCase := true }
      | 'z' => keep { repetition with ending := '\x00' }
      | 'D' =>
        keep { repetition with showsSingle := false, showsOthers := true, apart := "none" }
      | 'α' =>
        if value.isEmpty then
          keep { repetition with showsSingle := false, showsOthers := true, apart := "none" }
        else
          match chosenWord? apartWords value with
          | some apart =>
            keep { repetition with showsSingle := false, showsOthers := true, apart }
          | none => throw (wrongWord "--all-repeated" apartWords value, true)
      | 'β' =>
        if value.isEmpty then keep { repetition with grouping := some "separate" }
        else
          match chosenWord? groupingWords value with
          | some grouping => keep { repetition with grouping := some grouping }
          | none => throw (wrongWord "--group" groupingWords value, true)
      | 'f' => return ({ repetition with skippedFields := ← number "fields to skip" value }, false)
      | 's' => keep { repetition with skippedBytes := ← number "bytes to skip" value }
      | 'w' => keep { repetition with comparedBytes := some (← number "bytes to compare" value) }
      | digit =>
        let before := if isOld then repetition.skippedFields else 0
        return ({ repetition with skippedFields := before * 10 + (digit.toNat - 48) }, true))
    ({}, false)
  if repetition.grouping.isSome && "cdDuα".toList.any options.has then
    throw ("--group is mutually exclusive with -c/-d/-D/-u".toList, true)
  if repetition.counts && repetition.showsOthers then
    throw ("printing all duplicated lines and repeat counts is meaningless".toList, true)
  return repetition

/-- Drops lines that repeat the one before, counts them or shows only some of them. -/
def uniq (process : Process) : Step Nat :=
  process.withOptions
    { plain := "0123456789Dcdiuz", valued := "fsw"
      words := [("count", 'c'), ("repeated", 'd'), ("unique", 'u'), ("ignore-case", 'i'),
        ("all-repeated", 'α'), ("group", 'β'), ("skip-fields", 'f'), ("skip-chars", 's'),
        ("check-chars", 'w'), ("zero-terminated", 'z')] } 1
    fun options => do
      -- a number after a plus sign says how many bytes are skipped
      let isOld (name : List Char) : Bool := match name with
        | '+' :: digits => (Text.natural? digits).isSome
        | _ => false
      let olds := (options.operands.filter isOld).map fun name => ('s', name.drop 1)
      let names := options.operands.filter fun name => !isOld name
      match repetitionOf { options with options := options.options ++ olds } with
      | .error (message, true) => misuse process message 1
      | .error (message, false) =>
        process.complain message
        return 1
      | .ok repetition =>
        if let some extra := names[2]? then
          return ← misuse process ("extra operand ".toList ++ marked extra) 1
        let input := (names[0]?).getD ['-']
        match ← process.openInput (some input) with
        | .error .isDirectory =>
          process.complain ("error reading ".toList ++ marked input ++ ": ".toList
            ++ Refusal.isDirectory.complaint.toList)
          return 1
        | .error refusal =>
          process.warn (process.blame input refusal)
          return 1
        | .ok number =>
          let output := (names[1]?).getD ['-']
          let opened : Except Refusal (Option Nat) ←
            if output = ['-'] then pure (.ok none)
            else
              match ← process.createFile (.write true) output with
              | .ok number => pure (.ok (some number))
              | .error refusal => pure (.error refusal)
          match opened with
          | .error refusal =>
            process.warn (process.blame output refusal)
            return 1
          | .ok target =>
            let text := repetition.text (bareLinesEndedBy repetition.ending (← readAll number))
            match target with
            | none => process.say text
            | some target =>
              let _ ← putAll target (bytesOfRaw text)
            return 0

/-! ### Sorted inputs side by side -/

/-- A line of one or of both of two sorted inputs, with the number of its column, or the finding
that a line of an input is smaller than the one before it. -/
inductive SortedItem where
  | line (column : Nat) (text : List Char)
  | disorder (input : Nat)

/-- How much is checked about the order of lines. -/
structure OrderCheck where
  /-- Order is checked even if all lines have equals. -/
  always : Bool := false
  never : Bool := false

/-- The lines of two sorted inputs with the column to which each belongs. The lines before the
next ones are known, and whether some line has had no equal. -/
def compareSorted (check : OrderCheck) (fuel : Nat) (alone : Bool)
    (before : Option (List Char) × Option (List Char)) (left right : List (List Char)) :
    List SortedItem :=
  match fuel with
  | 0 => []
  | fuel + 1 =>
    let order : Option Ordering := match left, right with
      | [], [] => none
      | _ :: _, [] => some .lt
      | [], _ :: _ => some .gt
      | a :: _, b :: _ => some (if a = b then .eq else if a < b then .lt else .gt)
    match order with
    | none => []
    | some order =>
      let alone := alone || order ≠ .eq
      -- at the end of an input its last two lines are looked at again
      let disorder (input : Nat) (old : Option (List Char)) (lines : List (List Char)) :
          List SortedItem :=
        let isWrong := match lines, old with
          | a :: b :: _, _ => b < a
          | [a], some old => a < old
          | _, _ => false
        if isWrong && !check.never && (check.always || alone) then [.disorder input] else []
      let shown := match order with
        | .lt => SortedItem.line 1 (left.headD [])
        | .gt => .line 2 (right.headD [])
        | .eq => .line 3 (right.headD [])
      let (firstCheck, left', first') :=
        if order = .gt then ([], left, before.1)
        else (disorder 1 before.1 left, left.tail, left.head?)
      let (secondCheck, right', second') :=
        if order = .lt then ([], right, before.2)
        else (disorder 2 before.2 right, right.tail, right.head?)
      shown :: (firstCheck ++ secondCheck
        ++ compareSorted check fuel alone (first', second') left' right')

/-- What is shown of two sorted inputs. -/
structure Comparison where
  hides : Nat → Bool
  delimiter : List Char
  ending : Char

/-- A line in its column. -/
def Comparison.text (comparison : Comparison) (column : Nat) (line : List Char) : List Char :=
  if comparison.hides column then []
  else
    let columns := (List.range column).filter fun i => 0 < i && !comparison.hides i
    columns.flatMap (fun _ => comparison.delimiter) ++ line ++ [comparison.ending]

/-- Writes what is found out about two inputs. The result is whether it was all written, and the
inputs that are not in order. -/
def saySorted (process : Process) (comparison : Comparison) (check : OrderCheck)
    (found : List SortedItem) : Step (Bool × List Nat) :=
  found.foldlM (fun (goesOn, reported) item => do
    if !goesOn then return (false, reported)
    match item with
    | .line column line =>
      process.say (comparison.text column line)
      return (true, reported)
    | .disorder input =>
      if reported.contains input then return (true, reported)
      process.complain ("file ".toList ++ decimal input ++ " is not in sorted order".toList)
      return (!check.always, input :: reported)) (true, [])

/-- Compares two sorted inputs line by line. -/
def comm (process : Process) : Step Nat :=
  process.withOptions
    { plain := "123z", valued := "β"
      words := [("check-order", 'γ'), ("nocheck-order", 'δ'), ("output-delimiter", 'β'),
        ("total", 'ε'), ("zero-terminated", 'z')] } 1
    fun options => do
      let delimiters := (options.values 'β').eraseDups
      if 1 < delimiters.length then
        process.complain "multiple output delimiters specified".toList
        return 1
      match options.operands with
      | [] => misuse process "missing operand".toList 1
      | [name] => misuse process ("missing operand after ".toList ++ marked name) 1
      | _ :: _ :: extra :: _ => misuse process ("extra operand ".toList ++ marked extra) 1
      | [first, second] =>
        let ending := if options.has 'z' then '\x00' else '\n'
        let linesOf (name : List Char) : Step (Except Refusal (List (List Char))) := do
          match ← process.openInput (some name) with
          | .ok number => return .ok (bareLinesEndedBy ending (← readAll number))
          | .error refusal => return .error refusal
        match ← linesOf first with
        | .error refusal =>
          process.warn (process.blame first refusal)
          return 1
        | .ok left =>
          match ← linesOf second with
          | .error refusal =>
            process.warn (process.blame second refusal)
            return 1
          | .ok right =>
            let last := options.lastOf? "γδ" |>.map (·.1)
            let check : OrderCheck := ⟨last = some 'γ', last = some 'δ'⟩
            let delimiter := match delimiters.head? with
              | none => ['\t']
              | some [] => ['\x00']
              | some delimiter => delimiter
            let hides (n : Nat) : Bool := options.has (Char.ofNat (n + 48))
            let found :=
              compareSorted check (left.length + right.length + 1) false (none, none) left right
            let (isWhole, reported) ←
              saySorted process ⟨hides, delimiter, ending⟩ check found
            if !isWhole then return 1
            if options.has 'ε' then
              let total (column : Nat) : List Char := decimal (found.countP fun item =>
                match item with
                | .line place _ => place = column
                | .disorder _ => false)
              process.say (Text.joinWith delimiter
                [total 1, total 2, total 3, "total".toList] ++ [ending])
            if !reported.isEmpty then
              process.complain "input is not in sorted order".toList
              return 1
            return 0

end CheckedBuild.Machine.Tools
