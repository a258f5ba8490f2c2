import CheckedBuild.Machine.Tools.Format
import CheckedBuild.Machine.Tools.Operands

/-!
# Sequences of numbers

Numbers are printed from a first one to a last one by equal steps. Natural numbers may be of any
size; all others are rounded as a machine keeps them, the sum of the first number and a multiple
of the step after each of these two operations.
-/

namespace CheckedBuild.Machine.Tools

open Text.Floating

/-- A number among the operands, with what its spelling says about the output. -/
structure SeqOperand where
  value : Number
  /-- How many characters the spelling takes without an exponent. -/
  width : Int := 0
  /-- How many digits stand after the point, if that can be told. -/
  places : Option Nat := none

/-- How wide a number is and how many places it has that is written in decimal digits. -/
def decimalSpelling (s : List Char) : Int × Nat :=
  let mantissa := s.takeWhile fun c => c ≠ 'e' && c ≠ 'E'
  let whole := mantissa.takeWhile (· ≠ '.')
  let hasPoint := whole.length < mantissa.length
  let fraction := (mantissa.drop whole.length).drop 1
  let count := fraction.length
  let width : Int := mantissa.length
    + (if !hasPoint then 0 else if count = 0 then -1
      else if whole.getLast?.any Char.isDigit then 0 else 1)
  if mantissa.length = s.length then (width, count)
  else
    let exponent := (Format.integer ((s.drop mantissa.length).drop 1)).1
    if exponent < 0 then
      -- a point has to be written that is not there, or was not counted
      let width := width + (if !hasPoint || count = 0 then 1 else 0)
      (width + exponent.natAbs, count + exponent.natAbs)
    else
      let places := count - exponent.natAbs
      let width := width - (if hasPoint && places = 0 && count ≠ 0 then 1 else 0)
      (width + (exponent.natAbs - count : Nat), places)

/-- Reads an operand, or says why it is no number. -/
def seqOperand (s : List Char) : Except (List Char) SeqOperand :=
  let isSpace (c : Char) : Bool := c = ' ' || ('\t' ≤ c && c ≤ '\r')
  match Precision.extended.read? (s.dropWhile isSpace) with
  | some ((.undefined _, _), []) =>
    .error ("invalid 'not-a-number' argument: ".toList ++ marked s)
  | some ((value, _), []) =>
    let s := s.dropWhile fun c => isSpace c || c = '+'
    let isHexadecimal := s.any fun c => c = 'x' || c = 'X'
    match value with
    | .finite _ =>
      if isHexadecimal then
        .ok { value, places := if s.contains '.' || s.contains 'p' then none else some 0 }
      else
        let (width, places) := decimalSpelling s
        .ok ⟨value, width, some places⟩
    | _ => .ok { value, places := some 0 }
  | _ => .error ("invalid floating point argument: ".toList ++ marked s)

/-- How numbers are written, with what stands around them. -/
structure SeqFormat where
  before : List Char := []
  field : Format.Field
  form : Char
  after : List Char := []

/-- A number in writing without what stands around it. -/
def SeqFormat.digits (format : SeqFormat) (x : Number) : List Char :=
  format.field.real .extended format.form x

/-- A number in writing. -/
def SeqFormat.text (format : SeqFormat) (x : Number) : List Char :=
  format.before ++ format.digits x ++ format.after

/-- A text in which two percent signs stand for one, up to a single one. -/
def literalPart : List Char → List Char × List Char
  | '%' :: '%' :: rest => ((literalPart rest).1.cons '%', (literalPart rest).2)
  | '%' :: rest => ([], '%' :: rest)
  | c :: rest => ((literalPart rest).1.cons c, (literalPart rest).2)
  | [] => ([], [])

/-- Reads a format, or says what is wrong with it. -/
def seqFormat (s : List Char) : Except (List Char) SeqFormat :=
  let wrong (reason : List Char) : Except (List Char) SeqFormat :=
    .error ("format ".toList ++ marked s ++ reason)
  match literalPart s with
  | (_, []) => wrong " has no % directive".toList
  | (before, _ :: rest) =>
    let flags := rest.takeWhile "-+#0 '".toList.contains
    let rest := rest.drop flags.length
    let width := rest.takeWhile Char.isDigit
    let rest := rest.drop width.length
    let (precision, rest) : Option Nat × List Char := match rest with
      | '.' :: rest =>
        let digits := rest.takeWhile Char.isDigit
        (some ((Text.natural? digits).getD 0), rest.drop digits.length)
      | rest => (none, rest)
    let rest := if rest.head? = some 'L' then rest.drop 1 else rest
    match rest with
    | [] => wrong " ends in %".toList
    | form :: rest =>
      if !"efgaEFGA".toList.contains form then
        wrong (" has unknown %".toList ++ form :: " directive".toList)
      else
        match literalPart rest with
        | (_, _ :: _) => wrong " has too many % directives".toList
        | (after, []) =>
          let field : Format.Field :=
            { left := flags.contains '-', plus := flags.contains '+'
              blank := flags.contains ' ', alternate := flags.contains '#'
              zeros := flags.contains '0', width := (Text.natural? width).getD 0, precision }
          .ok ⟨before, field, form, after⟩

/-- The format that operands ask for. All numbers are as wide as the widest one if that is asked
for. -/
def usualFormat (first step last : SeqOperand) (equalWidth : Bool) : SeqFormat :=
  match first.places, step.places, last.places with
  | some a, some b, some c =>
    let places := max a b
    let width : Int :=
      if !equalWidth then 0
      else
        let point (has : Bool) : Int := if has then 1 else 0
        let firstWidth := first.width + (places - a : Nat) + point (a = 0 && places ≠ 0)
        let lastWidth := last.width + ((places : Int) - c)
          - point (c ≠ 0 && places = 0) + point (c = 0 && places ≠ 0)
        max firstWidth lastWidth
    ⟨[], { width := width.toNat, zeros := true, precision := some places }, 'f', []⟩
  | _, _, _ => ⟨[], {}, 'g', []⟩

/-- The order of two numbers, none of which is undefined. -/
def isBelow : Number → Number → Bool
  | .finite x, .finite y =>
    let signed (x : Fraction) : Int := if x.negative then -(x.numerator : Int) else x.numerator
    signed x * y.denominator < signed y * x.denominator
  | .infinite a, .infinite b => a && !b
  | .infinite a, _ => a
  | _, .infinite b => !b
  | _, _ => false

/-- The first number and so many steps. -/
def afterSteps (first step : Fraction) (n : Nat) : Number :=
  let signed (x : Fraction) : Int := if x.negative then -(x.numerator : Int) else x.numerator
  match Precision.extended.round { step with numerator := step.numerator * n } with
  | (.finite way, _) =>
    let numerator := signed first * way.denominator + signed way * first.denominator
    (Precision.extended.round
      ⟨numerator < 0, numerator.natAbs, first.denominator * way.denominator⟩).1
  | (x, _) => x

/-- More numbers than these are not printed. -/
def mostNumbers : Nat := 10000000

/-- The numbers from a first one on in writing. A number just beyond the last one belongs to them
if it is written as the last one and unlike the one before. -/
def realNumbers (format : SeqFormat) (first step : Fraction) (last : Number) (fuel n : Nat)
    (x : Number) : List (List Char) :=
  match fuel with
  | 0 => []
  | fuel + 1 =>
    let next := afterSteps first step n
    let isBeyond := if step.negative then isBelow next last else isBelow last next
    let rest :=
      if !isBeyond then realNumbers format first step last fuel (n + 1) next
      else
        match Precision.extended.read? ((format.digits next).dropWhile (· = ' ')) with
        | some ((shown, _), []) =>
          if !isBelow shown last && !isBelow last shown && format.text next ≠ format.text x then
            [format.text next]
          else []
        | _ => []
    format.text x :: rest

/-- Writes numbers with something between them. -/
def sayNumbers (process : Process) (separator : List Char) (numbers : List (List Char)) :
    Step Unit :=
  if numbers.isEmpty then pure () else process.say (closed (Text.joinWith separator numbers))

/-- Prints the numbers between operands that need not be natural numbers. -/
def seqReals (process : Process) (format : Option SeqFormat) (equalWidth : Bool)
    (separator : List Char) (first step last : SeqOperand) : Step Nat := do
  let format := format.getD (usualFormat first step last equalWidth)
  match first.value, step.value with
  | .finite start, .finite way =>
    let isEmpty := if way.negative then isBelow first.value last.value
      else isBelow last.value first.value
    if !isEmpty then
      sayNumbers process separator
        (realNumbers format start way last.value mostNumbers 1 first.value)
    return 0
  | _, _ => return 0

/-- Prints numbers from a first one to a last one. -/
def seq (process : Process) : Step Nat :=
  -- a negative number is no option
  let isNegative (s : List Char) : Bool := match s with
    | '-' :: c :: _ => c.isDigit || c = '.'
    | _ => false
  let rec guarded (fuel : Nat) (arguments : List (List Char)) : List (List Char) :=
    match fuel, arguments with
    | fuel + 1, s :: rest =>
      if isNegative s then "--".toList :: s :: rest
      else if s = ['-', 's'] || s = ['-', 'f'] then s :: rest.take 1 ++ guarded fuel (rest.drop 1)
      else if s.head? = some '-' && s ≠ "--".toList then s :: guarded fuel rest
      else s :: rest
    | _, arguments => arguments
  let count := process.arguments.length
  { process with arguments := guarded count process.arguments }.withOptions
    { plain := "w", valued := "sf", strict := true
      words := [("equal-width", 'w'), ("separator", 's'), ("format", 'f')] } 1
    fun options => do
      let operands := options.operands
      let separator := (options.value? 's').getD ['\n']
      let equalWidth := options.has 'w'
      if operands.isEmpty then return ← misuse process "missing operand".toList 1
      if let some extra := operands[3]? then
        return ← misuse process ("extra operand ".toList ++ marked extra) 1
      match (options.value? 'f').mapM seqFormat with
      | .error message =>
        process.complain message
        return 1
      | .ok format =>
        if format.isSome && equalWidth then
          return ← misuse process
            ("format string may not be specified when printing equal width "
              ++ "strings").toList 1
        let naturals := operands.map Text.natural?
        let isPlain := !equalWidth && format.isNone && separator.length = 1
        match isPlain, naturals with
        | true, [some last] =>
          let numbers := (List.range (min last mostNumbers)).map fun i => decimal (i + 1)
          sayNumbers process separator numbers
          return 0
        | true, [some first, some last] =>
          let count := min (last + 1 - first) mostNumbers
          sayNumbers process separator
            ((List.range count).map fun i => decimal (first + i))
          return 0
        | _, _ =>
          match operands.mapM seqOperand with
          | .error message => misuse process message 1
          | .ok numbers =>
            let one : SeqOperand := ⟨.finite ⟨false, 1, 1⟩, 1, some 0⟩
            match numbers with
            | [last] => seqReals process format equalWidth separator one one last
            | [first, last] => seqReals process format equalWidth separator first one last
            | first :: step :: last :: _ =>
              match step.value with
              | .finite ⟨_, 0, _⟩ =>
                misuse process ("invalid Zero increment value: ".toList
                  ++ marked ((operands[1]?).getD [])) 1
              | _ => seqReals process format equalWidth separator first step last
            | [] => return 0

end CheckedBuild.Machine.Tools
