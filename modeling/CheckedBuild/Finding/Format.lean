import CheckedBuild.Machine.Tools.Status

/-!
# Facts about files that are found

A format tells facts about a file: letters behind percent signs stand for them, and escapes for
characters.
-/

namespace CheckedBuild.Finding

open CheckedBuild.Machine
open CheckedBuild.Machine.Tools

/-- A file that has been found. -/
structure Found where
  path : List Char
  /-- The path where the search began, and how deep the file is below it. -/
  start : List Char
  level : Nat
  place : Name
  node : Node

/-- The directory part of a path as it is written. -/
def directoryPart (path : List Char) : List Char :=
  let short := withoutEndSlashes path
  if short.contains '/' then
    let front := (short.reverse.dropWhile (· ≠ '/')).reverse
    withoutEndSlashes front
  else ['.']

/-- The path below the one where the search began. -/
def Found.inner (found : Found) : List Char :=
  let rest := found.path.drop found.start.length
  if found.level = 0 then [] else rest.dropWhile (· = '/')

/-- The letter for the kind of what a link leads to. -/
def Found.targetLetter (files : FileSystem) (found : Found) : Char :=
  match files.find (textOfRaw (pathOf found.place)) with
  | .ok (_, node) => if node.isRegular then 'f' else node.letter
  | .error .tooManyLevels => 'L'
  | .error _ => 'N'

/-- The letter for the kind of a node. -/
def kindLetter (node : Node) : Char := if node.isRegular then 'f' else node.letter

/-- A time in a given form. -/
def shownPart (time : Nat) (letter : Char) : List Char :=
  let date := Text.Calendar.dateOf (time / 1000000000 : Nat) (time % 1000000000)
  let seconds := "%H:%M:".toList
  match letter with
  | '@' => secondsOf 9 time ++ ['0']
  | '+' => date.written "%Y-%m-%d+%H:%M:%S.%N0".toList
  | 'S' => date.written "%S.%N0".toList
  | 'T' | 'X' => date.written (seconds ++ "%S.%N0".toList)
  | 'x' | 'D' => date.written "%m/%d/%y".toList
  | 'c' => date.written "%a %b %e %H:%M:%S %Y".toList
  | c => date.written ['%', c]

/-- What a letter stands for, and whether it is a number. -/
def factOf? (files : FileSystem) (found : Found) (letter : Char) : Option (List Char × Bool) :=
  let node := found.node
  match letter with
  | 'p' => some (found.path, false)
  | 'f' => some (lastComponent found.path, false)
  | 'h' => some (directoryPart found.path, false)
  | 'P' => some (found.inner, false)
  | 'H' => some (found.start, false)
  | 's' => some (decimal node.size, true)
  | 'm' => some (Nat.toDigits 8 node.mode, true)
  | 'M' => some (node.letter :: modeLetters node.mode, false)
  | 'y' => some ([kindLetter node], false)
  | 'Y' =>
    some ([if node.isLink then found.targetLetter files else kindLetter node], false)
  | 'd' => some (decimal found.level, true)
  | 'l' =>
    match node.content with
    | .link target => some (rawOf target, false)
    | _ => some ([], false)
  | 'n' => some (decimal (linkCount files found.place node), true)
  | 'i' => some (decimal ((files.number? found.place).getD 1 + 1000), true)
  | 'u' | 'g' => some ("root".toList, false)
  | 'U' | 'G' => some (['0'], true)
  | 'k' => some (decimal (blocksOf node), true)
  | 'b' => some (decimal (blocksOf node * 2), true)
  | 'D' => some ("65024".toList, true)
  | 'F' => some ("ext4".toList, false)
  | 'S' => some (['1'], true)
  | 't' | 'a' | 'c' =>
    let date := Text.Calendar.dateOf (node.changed / 1000000000 : Nat) (node.changed % 1000000000)
    some (date.written "%a %b %e %H:%M:%S.%N0 %Y".toList, false)
  | _ => none

/-- A fact in its field, and what follows it. -/
def fieldOf (files : FileSystem) (found : Found) (format : List Char) : List Char × List Char :=
  let flags := format.takeWhile "-+ #0".toList.contains
  let rest := format.drop flags.length
  let digits := rest.takeWhile Char.isDigit
  let rest := rest.drop digits.length
  let (precision, rest) : Option Nat × List Char :=
    match rest with
    | '.' :: tail =>
      let digits := tail.takeWhile Char.isDigit
      (some ((Text.natural? digits).getD 0), tail.drop digits.length)
    | rest => (none, rest)
  let field : Format.Field :=
    { left := flags.contains '-', zeros := flags.contains '0'
      width := (Text.natural? digits).getD 0 }
  match rest with
  | '%' :: tail => (['%'], tail)
  | letter :: second :: tail =>
    if "ATBC".toList.contains letter then (field.text (shownPart found.node.changed second), tail)
    else
      match factOf? files found letter with
      | some (s, true) => (field.number [] s true, second :: tail)
      | some (s, false) => ({ field with precision }.text s, second :: tail)
      | none => (['%', letter], second :: tail)
  | [letter] =>
    match factOf? files found letter with
    | some (s, true) => (field.number [] s true, [])
    | some (s, false) => ({ field with precision }.text s, [])
    | none => (['%', letter], [])
  | [] => (['%'], [])

/-- The facts that a format tells. -/
def Found.written (files : FileSystem) (found : Found) (fuel : Nat) (format : List Char) :
    List Char :=
  match fuel, format with
  | fuel + 1, '%' :: rest =>
    let (s, rest) := fieldOf files found rest
    s ++ found.written files fuel rest
  | _, '\\' :: 'c' :: _ => []
  | fuel + 1, '\\' :: rest =>
    match Format.escape? false rest with
    | some (c, rest) => c :: found.written files fuel rest
    | none => '\\' :: found.written files fuel rest
  | fuel + 1, c :: rest => c :: found.written files fuel rest
  | _, _ => []

/-- The line that tells everything about a file. -/
def Found.line (files : FileSystem) (found : Found) : List Char :=
  let time := shownTime {} files.now found.node.changed
  let target := match found.node.content with
    | .link target => " -> ".toList ++ rawOf target
    | _ => []
  found.written files 64 "%9i %6k %M %3n %-8u %-8g %8s ".toList ++ time ++ ' ' :: found.path
    ++ target ++ ['\n']

end CheckedBuild.Finding
