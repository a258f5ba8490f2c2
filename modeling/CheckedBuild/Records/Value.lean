import CheckedBuild.Machine.Tools.Format
import CheckedBuild.Text.Regular.Spelling
import CheckedBuild.Text.Pieces

/-!
# Values of the language for records

A value is a number or a text, or a text from outside that looks like a number and counts as both.
What has not been set counts as zero and as no text at all.
-/

namespace CheckedBuild.Records

open Machine Text

/-- A value. -/
inductive Value where
  | number (x : Float)
  | text (s : List Char)
  /-- A text from outside that looks like the number. -/
  | numeral (s : List Char) (x : Float)
  | unset

/-- Blanks around numbers. -/
def isBlank (c : Char) : Bool := c = ' ' || ('\t' ≤ c && c ≤ '\r')

/-- The number at the beginning of a text. -/
def numberOf (s : List Char) : Float :=
  ((Floating.readAny? (s.dropWhile isBlank)).map (·.1)).getD 0

/-- A text from outside as a value. -/
def Value.ofInput (s : List Char) : Value :=
  match Floating.readAny? (s.dropWhile isBlank) with
  | some (x, rest) => if rest.all isBlank then .numeral s x else .text s
  | none => .text s

/-- A truth as a value. -/
def Value.ofBool (b : Bool) : Value := .number (if b then 1 else 0)

/-- A value as a number. -/
def Value.toNumber : Value → Float
  | .number x | .numeral _ x => x
  | .text s => numberOf s
  | .unset => 0

/-- A value as a truth. -/
def Value.isTrue : Value → Bool
  | .number x | .numeral _ x => x != 0
  | .text s => !s.isEmpty
  | .unset => false

/-- The integer that a number is, if it is one. -/
def integer? (x : Float) : Option Int :=
  match Floating.fractionOf? x with
  | some ⟨negative, numerator, denominator⟩ =>
    if numerator % denominator = 0 then
      let n : Nat := numerator / denominator
      some (if negative then -n else n)
    else none
  | none => none

/-- A number without its decimals, between two bounds. -/
def truncated (low high : Int) (x : Float) : Int :=
  match Floating.fractionOf? x with
  | some ⟨negative, numerator, denominator⟩ =>
    let n : Nat := numerator / denominator
    max low (min high (if negative then -n else n))
  | none => if x < 0 || !(x == x) then low else high

/-! ### Formats -/

/-- Why a format cannot be carried out. -/
inductive FormatFault where
  | missingArguments
  /-- The directive of a number means nothing. -/
  | improper (number : Nat)

/-- What a format yields: the text up to the place where it cannot be carried out. -/
structure Formatted where
  text : List Char := []
  fault : Option FormatFault := none

/-- The same with a text in front. -/
def Formatted.behind (s : List Char) (formatted : Formatted) : Formatted :=
  { formatted with text := s ++ formatted.text }

/-- A width or a precision of a directive, which may be an argument. -/
def measure (s : List Char) (arguments : List Value) : Int × List Char × List Value :=
  match s, arguments with
  | '*' :: rest, value :: later => (truncated (-10000) 10000 value.toNumber, rest, later)
  | '*' :: rest, [] => (0, rest, [])
  | s, arguments =>
    let digits := s.takeWhile Char.isDigit
    (((Text.natural? digits).getD 0 : Nat), s.drop digits.length, arguments)

/-- The text of a value for a directive. -/
def fieldText (field : Format.Field) (form : Char) (toText : Value → List Char) (value : Value) :
    List Char :=
  let whole : Int :=
    if value.toNumber.isNaN then -(Int.pow 2 63)
    else truncated (-(Int.pow 2 63) + 1) (Int.pow 2 64 - 1) value.toNumber
  match form with
  | 'd' | 'i' => field.signed whole
  | 'o' | 'u' | 'x' | 'X' =>
    let base := if form = 'o' then 8 else if form = 'u' then 10 else 16
    field.unsigned base (form = 'X') (whole % Int.pow 2 64).toNat
  | 'c' =>
    let s := match value with
      | .number x | .numeral _ x => [Char.ofNat (truncated 0 (Int.pow 2 31) x % 256).toNat]
      | value => [(toText value).headD '\x00']
    { field with precision := none }.text s
  | 's' => field.text (toText value)
  | form => field.floating form value.toNumber

/-- The text that a format makes of arguments; `number` is the number of the next directive. -/
def formatted (fuel number : Nat) (toText : Value → List Char) (format : List Char)
    (arguments : List Value) : Formatted :=
  match fuel, format with
  | fuel + 1, '%' :: '%' :: rest =>
    (formatted fuel (number + 1) toText rest arguments).behind ['%']
  | fuel + 1, '%' :: rest =>
    if arguments.isEmpty then { fault := some .missingArguments }
    else
      let flags := rest.takeWhile fun c => "#-+ 0".toList.contains c
      let (width, rest, arguments) := measure (rest.drop flags.length) arguments
      let (precision, rest, arguments) : Option Int × List Char × List Value := match rest with
        | '.' :: rest =>
          let (n, rest, arguments) := measure rest arguments
          (some n, rest, arguments)
        | rest => (none, rest, arguments)
      let sizes := rest.takeWhile fun c => c = 'l' || c = 'h'
      let field : Format.Field :=
        { left := flags.contains '-' || width < 0, plus := flags.contains '+'
          blank := flags.contains ' ', alternate := flags.contains '#', zeros := flags.contains '0'
          width := width.natAbs
          precision := precision.bind fun n => if n < 0 then none else some n.toNat }
      match rest.drop sizes.length, arguments with
      | form :: rest, value :: arguments =>
        if (if sizes.isEmpty then "diouxXceEfgGs" else "diouxX").toList.contains form then
          (formatted fuel (number + 1) toText rest arguments).behind
            (fieldText field form toText value)
        else { fault := some (.improper number) }
      | _, [] => { fault := some .missingArguments }
      | [], _ => { fault := some (.improper number) }
  | fuel + 1, c :: rest => (formatted fuel number toText rest arguments).behind [c]
  | _, _ => {}

/-- A number as a text: integers as they are, others in a format. -/
def textOfNumber (format : List Char) (x : Float) : List Char :=
  match integer? x with
  | some n =>
    if n.natAbs ≤ Nat.pow 2 64 then decimalOf (max (-(Int.pow 2 63)) (min (Int.pow 2 64 - 1) n))
    else plain
  | none => plain
where
  plain : List Char :=
    if format = "%.6g".toList then ({ precision := some 6 } : Format.Field).floating 'g' x
    else (formatted (format.length + 1) 1 (fun _ => []) format [.number x]).text

/-- A value as a text; numbers that are no integers are written in a format. -/
def Value.toText (format : List Char) : Value → List Char
  | .number x => textOfNumber format x
  | .text s | .numeral s _ => s
  | .unset => []

/-- Whether a value takes part in comparisons as a number. -/
def Value.isNumeric : Value → Bool
  | .text _ => false
  | _ => true

/-- How two values compare: as numbers if both look like that, else as texts. -/
def compareValues (format : List Char) (left right : Value) : Ordering :=
  if left.isNumeric && right.isNumeric then
    let (x, y) := (left.toNumber, right.toNumber)
    if x < y then .lt else if y < x then .gt else .eq
  else
    let (s, t) := (left.toText format, right.toText format)
    if s < t then .lt else if t < s then .gt else .eq

/-! ### Texts -/

/-- The expression that a text spells; one that spells none matches nothing. -/
def expressionOf (s : List Char) : Regular.Expression :=
  let dialect : Regular.Dialect :=
    { bare := true, looseBounds := true, controls := true, references := false
      escapesInBrackets := true }
  (dialect.parse s).toOption.getD (.sequence .lineEnd .any)

/-- The pieces of a text between the matches of an expression, empty ones not counting. -/
def splitAtMatches (expression : Regular.Expression) (text : Array Char) (fuel start : Nat)
    (place : Nat) : List (List Char) :=
  match fuel with
  | 0 => [(text.extract start text.size).toList]
  | fuel + 1 =>
    match Regular.search expression false text place with
    | none => [(text.extract start text.size).toList]
    | some (first, last, _) =>
      if first = last then
        if first < text.size then splitAtMatches expression text fuel start (first + 1)
        else [(text.extract start text.size).toList]
      else
        (text.extract start first).toList :: splitAtMatches expression text fuel last last

/-- The fields of a text. -/
def splitFields (separator s : List Char) : List (List Char) :=
  if s.isEmpty then []
  else
    match separator with
    | [' '] =>
      (Text.pieces ' ' (s.map fun c => if c = '\t' || c = '\n' then ' ' else c)).filter
        fun word => !word.isEmpty
    | [] => s.map fun c => [c]
    | [c] => Text.pieces c s
    | separator => splitAtMatches (expressionOf separator) s.toArray (s.length + 1) 0 0

/-- What replaces a match: an ampersand stands for it unless a backslash is in front. -/
def replacementOf (found : List Char) : List Char → List Char
  | '\\' :: '\\' :: '&' :: rest => '\\' :: found ++ replacementOf found rest
  | '\\' :: '&' :: rest => '&' :: replacementOf found rest
  | '&' :: rest => found ++ replacementOf found rest
  | c :: rest => c :: replacementOf found rest
  | [] => []

/-- The text from a place on with matches replaced, and how many there were. -/
def replaceMatches (expression : Regular.Expression) (replacement : List Char) (all : Bool)
    (text : Array Char) (fuel place : Nat) (last : Option Nat) : List Char × Nat :=
  let others := (text.extract place text.size).toList
  match fuel with
  | 0 => (others, 0)
  | fuel + 1 =>
    match Regular.search expression false text place with
    | none => (others, 0)
    | some (start, stop, _) =>
      let before := (text.extract place start).toList
      let isVoid := start = stop && last = some start
      let new := if isVoid then []
        else replacementOf (text.extract start stop).toList replacement
      let kept := if start = stop then (text[start]?).toList else []
      let count := if isVoid then 0 else 1
      if !all || (start = stop && text.size ≤ start) then
        (before ++ new ++ (text.extract stop text.size).toList, count)
      else
        let (rest, more) := replaceMatches expression replacement all text fuel
          (stop + kept.length) (some stop)
        (before ++ new ++ kept ++ rest, more + count)

/-- A part of a text, from a place on and of a length, both without their decimals. The first place
is one; a part that starts in front of it is longer by as much as the start is below zero. -/
def part (s : List Char) (start : Float) (length : Option Float) : List Char :=
  let whole : Float → Int := truncated (-(Int.pow 2 31)) (Int.pow 2 31)
  let first := whole start
  let kept := s.drop (first - 1).toNat
  match length with
  | some n => kept.take (whole n + max 0 (-first)).toNat
  | none => kept

/-- Where a text occurs in another one, counted from one; zero if nowhere. -/
def indexOf (fuel place : Nat) (wanted s : List Char) : Nat :=
  match fuel with
  | 0 => 0
  | fuel + 1 =>
    if wanted.isPrefixOf s then place
    else if s.isEmpty then 0
    else indexOf fuel (place + 1) wanted s.tail

end CheckedBuild.Records
