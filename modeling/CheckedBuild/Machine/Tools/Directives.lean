import CheckedBuild.Machine.Quotation
import CheckedBuild.Machine.Tools.Format

/-!
# Formatted output

A format is text with escapes and directives. Each directive takes the next argument; the format
is used again as long as arguments are left, and arguments that are missing count as empty. What
an argument lacks to be a number is reported and makes the status a failure; a directive that
does not exist ends the output. Formats come in a brief dialect, which shells know, and a full one
with more escapes and directives.
-/

namespace CheckedBuild.Machine.Format

/-- Which escapes and directives there are. -/
inductive Dialect where
  | brief
  /-- Characters of several bytes can be printed or not. -/
  | full (isWide : Bool)
deriving DecidableEq

/-- Whether a dialect is the full one. -/
def Dialect.isFull : Dialect → Bool
  | .brief => false
  | .full _ => true

/-- What can be wrong with a format or its arguments. -/
inductive Fault where
  | notNumeric (argument : List Char)
  | notWhole (argument : List Char)
  | outOfRange (argument : List Char)
  | noForm
  | noDirective (directive : List Char)
  | noDigits
  /-- A character that cannot be named by its number. -/
  | noCharacter (escape : List Char)
  | surplusCharacters (s : List Char)
  | surplusArguments (first : List Char)

/-- The wording of a fault in the brief dialect. -/
def Fault.briefMessage : Fault → List Char
  | .notNumeric s => s ++ ": expected numeric value".toList
  | .notWhole s => s ++ ": not completely converted".toList
  | .outOfRange s => s ++ ": Numerical result out of range".toList
  | .noForm => "missing format character".toList
  | .noDirective s => s ++ ": invalid directive".toList
  | .noDigits | .noCharacter _ | .surplusCharacters _ | .surplusArguments _ => []

/-- The wording of a fault in the full dialect. -/
def Fault.fullMessage : Fault → List Char
  | .notNumeric s => Quotation.word s ++ ": expected a numeric value".toList
  | .notWhole s => Quotation.word s ++ ": value not completely converted".toList
  | .outOfRange s => Quotation.word s ++ ": Numerical result out of range".toList
  | .noForm => "%: invalid conversion specification".toList
  | .noDirective s => s ++ ": invalid conversion specification".toList
  | .noDigits => "missing hexadecimal number in escape".toList
  | .noCharacter s => "invalid universal character name ".toList ++ s
  | .surplusCharacters s =>
    "warning: ".toList ++ s
      ++ ": character(s) following character constant have been ignored".toList
  | .surplusArguments s =>
    "warning: ignoring excess arguments, starting with ".toList ++ Quotation.word s

/-- What an escape of the full dialect does. -/
inductive Escape where
  | text (s rest : List Char)
  | stop
  | fault (fault : Fault)

/-- A number in hexadecimal digits of an exact count. -/
def hexadecimalOf (upper : Bool) (count n : Nat) : List Char :=
  let digits := Nat.toDigits 16 n
  List.replicate (count - digits.length) '0' ++ if upper then digits.map Char.toUpper else digits

/-- A character by its number in exactly so many digits. -/
def namedCharacter (isWide : Bool) (letter : Char) (count : Nat) (s : List Char) : Escape :=
  let (n, rest) := digitsValue 16 count s
  if s.length - rest.length ≠ count then .fault .noDigits
  else if 0xD800 ≤ n && n ≤ 0xDFFF then
    .fault (.noCharacter ('\\' :: letter :: hexadecimalOf false count n))
  else if n < 128 then .text [Char.ofNat n] rest
  else if isWide then .text (rawOf (String.singleton (Char.ofNat n))) rest
  else if n < 65536 then .text ('\\' :: 'u' :: hexadecimalOf true 4 n) rest
  else .text ('\\' :: 'U' :: hexadecimalOf true 8 n) rest

/-- The escape of the full dialect after a backslash. -/
def fullEscape (isWide zeroFirst : Bool) (s : List Char) : Escape :=
  match s with
  | 'c' :: _ => .stop
  | '"' :: rest => .text ['"'] rest
  | 'x' :: digits =>
    let (n, rest) := digitsValue 16 2 digits
    if rest.length = digits.length then .fault .noDigits else .text [Char.ofNat n] rest
  | 'u' :: digits => namedCharacter isWide 'u' 4 digits
  | 'U' :: digits => namedCharacter isWide 'U' 8 digits
  | _ =>
    match escape? zeroFirst s with
    | some (c, rest) => .text [c] rest
    | none => .text ('\\' :: s.take 1) (s.drop 1)

/-- What a formatting yields piece by piece. -/
inductive Piece where
  | text (s : List Char)
  | fault (fault : Fault)

/-- What a formatting yields. -/
structure Printed where
  pieces : List Piece := []
  status : Nat := 0

/-- All of the text that is printed. -/
def Printed.text (printed : Printed) : List Char :=
  printed.pieces.flatMap fun
    | .text s => s
    | .fault _ => []

/-- All of the faults. -/
def Printed.faults (printed : Printed) : List Fault :=
  printed.pieces.filterMap fun
    | .text _ => none
    | .fault fault => some fault

/-- The state of a formatting: the pieces so far, last one first, and the arguments left. -/
structure Progress where
  dialect : Dialect
  reversed : List Piece := []
  status : Nat := 0
  arguments : List (List Char)
  stopped : Bool := false

namespace Progress

/-- Prints a text. -/
def print (progress : Progress) (s : List Char) : Progress :=
  { progress with reversed := .text s :: progress.reversed }

/-- Takes the next argument. -/
def next (progress : Progress) : List Char × Progress :=
  (progress.arguments.headD [], { progress with arguments := progress.arguments.tail })

/-- Puts a fault on record that changes nothing. -/
def warn (progress : Progress) (fault : Fault) : Progress :=
  { progress with reversed := .fault fault :: progress.reversed }

/-- Puts a fault on record. -/
def complain (progress : Progress) (fault : Fault) : Progress :=
  { progress.warn fault with status := 1 }

/-- Ends the formatting with a fault. -/
def fail (progress : Progress) (fault : Fault) : Progress :=
  { progress.complain fault with status := 2, stopped := true }

/-- Puts on record what follows the number in an argument. -/
def check (progress : Progress) (argument rest : List Char) : Progress :=
  if rest.isEmpty then progress
  else if rest.length = argument.length then progress.complain (.notNumeric argument)
  else progress.complain (.notWhole argument)

/-- The number of the character after a quotation mark, with which an argument may begin. -/
def quoted? (progress : Progress) (argument : List Char) : Option (Nat × Progress) :=
  match argument with
  | quote :: rest =>
    if (quote = '"' || quote = '\'') && !(progress.dialect.isFull && rest.isEmpty) then
      let progress :=
        if progress.dialect.isFull && 1 < rest.length then
          progress.warn (.surplusCharacters (rest.drop 1))
        else progress
      some ((rest.headD '\x00').toNat, progress)
    else none
  | [] => none

/-- Takes the next argument as an integer between two bounds, which stand for what is beyond them;
below the lower one may be something else. -/
def nextInteger (progress : Progress) (low high : Int) (below : Int := low) : Int × Progress :=
  let (argument, progress) := progress.next
  match progress.quoted? argument with
  | some (n, progress) => (n, progress)
  | none =>
    if argument.isEmpty then (0, progress)
    else
      let (value, tail) := integer argument
      let progress := progress.check argument tail
      if value < low || high < value then
        (if value < low then below else high,
          if tail.isEmpty then progress.complain (.outOfRange argument) else progress)
      else (value, progress)

/-- How exact floating-point numbers are. -/
def precision (progress : Progress) : Text.Floating.Precision :=
  if progress.dialect.isFull then .extended else .usual

/-- Takes the next argument as a floating-point number. -/
def nextReal (progress : Progress) : Text.Floating.Number × Progress :=
  let (argument, progress) := progress.next
  match progress.quoted? argument with
  | some (n, progress) => (.finite ⟨false, n, 1⟩, progress)
  | none =>
    if argument.isEmpty then (.finite ⟨false, 0, 1⟩, progress)
    else
      let trimmed := argument.dropWhile fun c => c = ' ' || ('\t' ≤ c && c ≤ '\r')
      match progress.precision.read? trimmed with
      | some ((x, isOut), tail) =>
        let progress := progress.check argument tail
        (x, if isOut && tail.isEmpty then progress.complain (.outOfRange argument) else progress)
      | none => (.finite ⟨false, 0, 1⟩, progress.check argument argument)

/-- A width or precision: digits, or a star for the next argument. -/
def measure (progress : Progress) (s : List Char) : Int × Progress × List Char :=
  match s with
  | '*' :: rest =>
    let (n, progress) := progress.nextInteger (-2147483648) 2147483647
    (n, progress, rest)
  | _ =>
    let digits := s.takeWhile Char.isDigit
    (((Text.natural? digits).getD 0 : Nat), progress, s.drop digits.length)

/-- A text with the escapes of the dialect replaced. -/
def printUnescaped (progress : Progress) (field : Field) (s : List Char) : Progress :=
  match progress.dialect with
  | .brief =>
    let (text, stopped) := unescape s
    { progress.print (field.text text) with stopped }
  | .full isWide => go isWide (s.length + 1) s progress
where
  go (isWide : Bool) (fuel : Nat) (s : List Char) (progress : Progress) : Progress :=
    match fuel, s with
    | fuel + 1, '\\' :: rest =>
      match fullEscape isWide true rest with
      | .text text rest => go isWide fuel rest (progress.print text)
      | .stop => { progress with stopped := true }
      | .fault fault => progress.fail fault
    | fuel + 1, c :: rest => go isWide fuel rest (progress.print [c])
    | _, _ => progress

/-- Whether flags and a precision go together with a directive of the full dialect. -/
def isAllowed (flags : List Char) (hasPrecision : Bool) (form : Char) : Bool :=
  "aAcdeEfFgGiosuxX".toList.contains form
    && !((flags.contains '\'' || flags.contains 'I') && "aAceEosxX".toList.contains form)
    && !(flags.contains '#' && "cdisu".toList.contains form)
    && !(flags.contains '0' && "cs".toList.contains form)
    && !(hasPrecision && form = 'c')

/-- Carries out the directive that follows a percent sign; the result is what follows it. -/
def directive (progress : Progress) (s : List Char) : Progress × List Char :=
  let isFull := progress.dialect.isFull
  let flags := s.takeWhile fun c =>
    "#-+ 0".toList.contains c || (isFull && (c = '\'' || c = 'I'))
  let (width, progress, rest) := progress.measure (s.drop flags.length)
  let (precision, progress, rest) : Option Int × Progress × List Char := match rest with
    | '.' :: rest =>
      let (n, progress, rest) := progress.measure rest
      (some n, progress, rest)
    | _ => (none, progress, rest)
  let rest := if isFull then rest.dropWhile "lLhjtz".toList.contains else rest
  let field : Field :=
    { left := flags.contains '-' || width < 0, plus := flags.contains '+'
      blank := flags.contains ' ', alternate := flags.contains '#', zeros := flags.contains '0'
      width := width.natAbs
      precision := precision.bind fun n => if n < 0 then none else some n.toNat }
  let isPlain := rest.length = s.length
  match rest with
  | [] =>
    if isFull && !isPlain then (progress.fail (.noDirective ('%' :: s)), [])
    else (progress.fail .noForm, [])
  | form :: tail =>
    if form = 'b' && (!isFull || isPlain) then
      let (argument, progress) := progress.next
      (progress.printUnescaped field argument, tail)
    else if form = 'q' && isFull && isPlain then
      let (argument, progress) := progress.next
      let isWide := progress.dialect = .full true
      (progress.print (Quotation.ifNeeded isWide [] argument), tail)
    else if isFull && !isAllowed flags precision.isSome form then
      (progress.fail (.noDirective ('%' :: s.take (s.length - tail.length))), [])
    else if form = 's' then
      let (argument, progress) := progress.next
      (progress.print (field.text argument), tail)
    else if form = 'c' then
      let (argument, progress) := progress.next
      (progress.print ({ field with precision := none }.text [argument.headD '\x00']), tail)
    else if form = 'd' || form = 'i' then
      let (n, progress) := progress.nextInteger (-(Int.pow 2 63)) (Int.pow 2 63 - 1)
      (progress.print (field.signed n), tail)
    else if "ouxX".toList.contains form then
      let largest := Int.pow 2 64 - 1
      let (n, progress) := progress.nextInteger (-largest) largest largest
      let base := if form = 'o' then 8 else if form = 'u' then 10 else 16
      (progress.print (field.unsigned base (form = 'X') (n % Int.pow 2 64).toNat), tail)
    else if "aAeEfFgG".toList.contains form then
      let (x, progress) := progress.nextReal
      (progress.print (field.real progress.precision form x), tail)
    else
      (progress.fail (.noDirective ('%' :: s.take (s.length - tail.length))), [])

/-- One pass over a format. -/
def pass (fuel : Nat) (progress : Progress) (format : List Char) : Progress :=
  match fuel with
  | 0 => progress
  | fuel + 1 =>
    if progress.stopped then progress
    else
      match format with
      | [] => progress
      | '%' :: '%' :: rest => pass fuel (progress.print ['%']) rest
      | '%' :: rest =>
        let (progress, rest) := progress.directive rest
        pass fuel progress rest
      | '\\' :: rest =>
        match progress.dialect with
        | .brief =>
          match escape? false rest with
          | some (c, tail) => pass fuel (progress.print [c]) tail
          | none => pass fuel (progress.print ['\\']) rest
        | .full isWide =>
          match fullEscape isWide false rest with
          | .text text rest => pass fuel (progress.print text) rest
          | .stop => { progress with stopped := true }
          | .fault fault => progress.fail fault
      | c :: rest => pass fuel (progress.print [c]) rest

/-- Passes over the format as long as they use up arguments. -/
def passes (fuel : Nat) (progress : Progress) (format : List Char) : Progress :=
  match fuel with
  | 0 => progress
  | fuel + 1 =>
    let after := progress.pass (format.length + 1) format
    if after.stopped || after.arguments.isEmpty then after
    else if after.arguments.length = progress.arguments.length then
      if after.dialect.isFull then after.warn (.surplusArguments (after.arguments.headD []))
      else after
    else passes fuel after format

end Progress

/-- What is printed for a format and its arguments. -/
def printf (dialect : Dialect) (format : List Char) (arguments : List (List Char)) : Printed :=
  let progress : Progress := { dialect, arguments }
  let done := progress.passes (arguments.length + 1) format
  ⟨done.reversed.reverse, done.status⟩

end CheckedBuild.Machine.Format
