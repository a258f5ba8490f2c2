/-!
# Regular expressions

A match of a regular expression is the leftmost one, and of those the longest; inside it, earlier
parts take as much as they can. Matching yields all ends of matches from one place, each with the
places that the groups have matched, and an end that is reached twice is kept once.
-/

namespace CheckedBuild.Text.Regular

/-- A regular expression. -/
inductive Expression where
  | empty
  | character (c : Char)
  | any
  | oneOf (negated : Bool) (ranges : List (Char × Char))
  | lineStart
  | lineEnd
  /-- Behind a line feed. -/
  | afterFeed
  /-- In front of a line feed. -/
  | beforeFeed
  /-- Between two characters of which exactly one belongs to a word, as is asked for. -/
  | wordEdge (opens closes : Bool)
  | noEdge
  | group (number : Nat) (inside : Expression)
  | again (number : Nat)
  | sequence (first second : Expression)
  | either (left right : Expression)
  | repeated (inside : Expression) (least : Nat) (most : Option Nat)
deriving Repr, Inhabited

/-- What groups have matched: their numbers with the places where they begin and end. -/
abbrev Groups := List (Nat × Nat × Nat)

/-- An end of a match. -/
abbrev End := Nat × Groups

/-- The ends without those whose place came before. -/
def distinct (ends : List End) : List End :=
  (ends.foldl (fun (kept, seen) e =>
    if seen.contains e.1 then (kept, seen) else (e :: kept, e.1 :: seen))
    (([] : List End), ([] : List Nat))).1.reverse

/-- A character of a word. -/
def isOfWord (c : Char) : Bool := c.isAlphanum || c == '_'

/-- Whether an expression is for single characters, and whether it admits one. -/
def single? : Expression → Option (Char → Bool)
  | .character c => some (· == c)
  | .any => some fun _ => true
  | .oneOf negated ranges =>
    some fun c => (ranges.any fun (low, high) => low ≤ c && c ≤ high) != negated
  | _ => none

/-- How many characters from a place on are admitted, at most `most`. -/
def runLength (text : Array Char) (admits : Char → Bool) (most start : Nat) : Nat :=
  let rec go (most place n : Nat) : Nat :=
    match most with
    | 0 => n
    | most + 1 =>
      match text[place]? with
      | some c => if admits c then go most (place + 1) (n + 1) else n
      | none => n
  go most start 0

/-- The ends of a repetition of something that has the given ends. -/
def repeatEnds (step : Nat → Groups → List End) (least : Nat) (most : Option Nat) :
    Nat → Nat → Nat → Groups → List End
  | 0, _, place, groups => [(place, groups)]
  | fuel + 1, count, place, groups =>
    let more :=
      if most.any (· ≤ count) then []
      else
        ((step place groups).filter fun e => place < e.1 || count < least).flatMap fun e =>
          repeatEnds step least most fuel (count + 1) e.1 e.2
    distinct (more ++ if least ≤ count then [(place, groups)] else [])

/-- The ends of the matches of an expression from a place on, the preferred one first. -/
def ends (text : Array Char) (fold : Bool) : Expression → Nat → Groups → List End
  | .empty, place, groups => [(place, groups)]
  | .character c, place, groups =>
    match text[place]? with
    | some d =>
      if d == c || (fold && d.toLower == c.toLower) then [(place + 1, groups)] else []
    | none => []
  | .any, place, groups => if place < text.size then [(place + 1, groups)] else []
  | .oneOf negated ranges, place, groups =>
    match text[place]? with
    | some d =>
      let inside (d : Char) : Bool := ranges.any fun (low, high) => low ≤ d && d ≤ high
      if (inside d || (fold && (inside d.toLower || inside d.toUpper))) != negated then
        [(place + 1, groups)]
      else []
    | none => []
  | .lineStart, place, groups => if place = 0 then [(place, groups)] else []
  | .lineEnd, place, groups => if place = text.size then [(place, groups)] else []
  | .afterFeed, place, groups =>
    if 0 < place && text[place - 1]? == some '\n' then [(place, groups)] else []
  | .beforeFeed, place, groups =>
    if text[place]? == some '\n' then [(place, groups)] else []
  | .wordEdge opens closes, place, groups =>
    let before := 0 < place && (text[place - 1]?).any isOfWord
    let after := (text[place]?).any isOfWord
    if (opens && !before && after) || (closes && before && !after) then [(place, groups)] else []
  | .noEdge, place, groups =>
    let before := 0 < place && (text[place - 1]?).any isOfWord
    if before == (text[place]?).any isOfWord then [(place, groups)] else []
  | .group number inside, place, groups =>
    (ends text fold inside place groups).map fun (last, found) =>
      (last, (number, place, last) :: found.filter (·.1 != number))
  | .again number, place, groups =>
    match groups.lookup number with
    | some (first, last) =>
      let wanted := text.extract first last
      let found := text.extract place (place + wanted.size)
      let folded (s : Array Char) : Array Char := if fold then s.map Char.toLower else s
      if folded found == folded wanted then
        [(place + wanted.size, groups)]
      else []
    | none => []
  | .sequence first second, place, groups =>
    distinct ((ends text fold first place groups).flatMap fun e =>
      ends text fold second e.1 e.2)
  | .either left right, place, groups =>
    distinct (ends text fold left place groups ++ ends text fold right place groups)
  | .repeated inside least most, place, groups =>
    match (if fold then none else single? inside) with
    | some admits =>
      let length := runLength text admits (most.getD text.size) place
      if length < least then []
      else
        (List.range (length + 1 - least)).map fun n => (place + (length - n), groups)
    | none =>
      repeatEnds (ends text fold inside) least most (text.size + least + 2) 0 place groups

/-- The longest of the ends, the first of those. -/
def longest : List End → Option End
  | [] => none
  | e :: rest =>
    match longest rest with
    | some other => if e.1 < other.1 then some other else some e
    | none => some e

/-- A place where a match begins, and its end. -/
abbrev Found := Nat × End

/-- The leftmost match that begins at a place or after it. -/
def search (expression : Expression) (fold : Bool) (text : Array Char) (start : Nat) :
    Option Found :=
  let rec go (fuel place : Nat) : Option Found :=
    match fuel with
    | 0 => none
    | fuel + 1 =>
      match longest (ends text fold expression place []) with
      | some e => some (place, e)
      | none => go fuel (place + 1)
  go (text.size + 1 - start) start

/-- Expressions one after the other. -/
def Expression.join : Expression → Expression → Expression
  | .empty, second => second
  | first, .empty => first
  | first, second => .sequence first second

/-- The expression for a text that stands for itself. -/
def literal (s : List Char) : Expression :=
  s.foldr (fun c rest => (Expression.character c).join rest) .empty

end CheckedBuild.Text.Regular
