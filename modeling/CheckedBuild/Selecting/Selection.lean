import CheckedBuild.Text.Regular

/-!
# Selecting lines

A line is selected if one of some expressions matches a part of it, or if none does where that is
asked for. Around selected lines further ones are shown, and a gap is marked where lines that do
not follow each other would come together.
-/

namespace CheckedBuild.Selecting

open Text

/-- How lines are selected. -/
structure Selection where
  expressions : List Regular.Expression
  folds : Bool := false
  /-- A match has to be a word. -/
  words : Bool := false
  /-- A match has to be the whole line. -/
  whole : Bool := false
  /-- The lines without a match are selected. -/
  inverted : Bool := false

namespace Selection

/-- Whether a match from one place to another is admitted. -/
def admits (selection : Selection) (characters : Array Char) (first last : Nat) : Bool :=
  let isWordAt (i : Nat) : Bool := (characters[i]?).any Regular.isOfWord
  if selection.whole then first = 0 && last = characters.size
  else if selection.words then !(0 < first && isWordAt (first - 1)) && !isWordAt last
  else true

/-- The end of the longest match from a place on. -/
def matchAt? (selection : Selection) (line : Array Char) (first : Nat) : Option Nat :=
  let ends := selection.expressions.flatMap fun expression =>
    (Regular.ends line selection.folds expression first []).map (·.1)
  (ends.filter (selection.admits line first)).max?

/-- The first match at one of so many places, and its end. -/
def findFrom? (selection : Selection) (line : Array Char) (places first : Nat) :
    Option (Nat × Nat) :=
  match places with
  | 0 => none
  | places + 1 =>
    match selection.matchAt? line first with
    | some last => some (first, last)
    | none => selection.findFrom? line places (first + 1)

/-- The first match at a place or after it, and its end. -/
def find? (selection : Selection) (line : Array Char) (first : Nat) : Option (Nat × Nat) :=
  selection.findFrom? line (if selection.whole then 1 - first else line.size + 1 - first) first

/-- Whether a line is selected. -/
def selects (selection : Selection) (line : Array Char) : Bool :=
  (selection.find? line 0).isSome != selection.inverted

/-- The matches in a line that are not empty. -/
def parts (selection : Selection) (line : Array Char) (fuel first : Nat) : List (Nat × Nat) :=
  match fuel with
  | 0 => []
  | fuel + 1 =>
    match selection.find? line first with
    | none => []
    | some (first, last) =>
      if last = first then
        if first < line.size then selection.parts line fuel (first + 1) else []
      else (first, last) :: selection.parts line fuel last

end Selection

/-- What becomes of a line. -/
inductive Mark where
  | selected
  | other
  /-- It would have been selected if there had not been enough of them. -/
  | surplus
deriving DecidableEq, Repr

/-- The marks of lines of which only so many are selected. -/
def marksOf (limit : Option Nat) (chosen : List Bool) : List Mark :=
  (chosen.foldl (fun (marks, count) isChosen =>
    if !isChosen then (Mark.other :: marks, count)
    else if limit.any (· ≤ count) then (Mark.surplus :: marks, count)
    else (Mark.selected :: marks, count + 1)) (([] : List Mark), 0)).1.reverse

/-- How many lines are shown around selected ones. -/
structure Context where
  before : Nat := 0
  after : Nat := 0
  /-- Gaps are marked. -/
  isGapped : Bool := false

/-- What is shown: a line by its number, which may be a selected one, or a gap. -/
inductive Item where
  | line (number : Nat) (isSelected : Bool)
  | gap
deriving DecidableEq, Repr

/-- How far the lines have been looked at. -/
structure Progress where
  /-- What is shown, the last item first. -/
  items : List Item := []
  /-- The line behind the last one that is shown. -/
  next : Option Nat := none
  /-- How many more lines are shown after a selected one. -/
  owed : Nat := 0
  /-- Something has been shown, of these lines or before them. -/
  hasShown : Bool := false

/-- Looks at the next line. -/
def Context.advance (context : Context) (progress : Progress) (entry : Mark × Nat) : Progress :=
  let (mark, number) := entry
  match mark with
  | .surplus => { progress with owed := 0 }
  | .other =>
    match progress.owed with
    | 0 => progress
    | owed + 1 =>
      { progress with
        items := .line number false :: progress.items, next := some (number + 1), owed }
  | .selected =>
    let first := max (number - context.before) (progress.next.getD 0)
    let isGap := context.isGapped && progress.hasShown && progress.next ≠ some first
    let led := (List.range (number - first)).map fun i => Item.line (first + i) false
    { items := .line number true :: (led.reverse ++ (if isGap then [.gap] else []) ++ progress.items)
      next := some (number + 1)
      owed := context.after
      hasShown := true }

/-- What is shown of lines with some marks; the flag tells that something was shown before. -/
def Context.items (context : Context) (hasShown : Bool) (marks : List Mark) : List Item :=
  (marks.zipIdx.foldl context.advance { hasShown }).items.reverse

end CheckedBuild.Selecting
