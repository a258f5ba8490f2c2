import CheckedBuild.Text.Regular

/-!
# Spelling of regular expressions

Regular expressions come in a basic spelling, in which operators other than a star have a backslash
in front of them, and in an extended one, in which they have none. Dialects differ in what becomes
of an operator that has nothing to operate on. A text that spells no expression has a fault, and
of several faults the first one counts.
-/

namespace CheckedBuild.Text.Regular

/-- What becomes of a repetition that has nothing to repeat. -/
inductive Leading where
  /-- It stands for itself. -/
  | literal
  | skipped
  | refused
deriving DecidableEq, Repr

/-- How expressions are spelled. -/
structure Dialect where
  /-- Operators have no backslash, and anchors are such wherever they stand. -/
  bare : Bool
  leading : Leading := .literal
  /-- A repetition may be repeated. -/
  stacked : Bool := true
  /-- Braces without proper bounds stand for themselves. -/
  looseBounds : Bool := false
  /-- A closing parenthesis without an opening one stands for itself. -/
  looseClosing : Bool := false
  /-- A range that ends before its start holds nothing. -/
  reversedRanges : Bool := false
  /-- Backslashes with letters stand for control characters. -/
  controls : Bool := false
  /-- There are edges of words, named sets behind a backslash, and references to groups. -/
  references : Bool := true
  /-- A backslash is special between brackets, too. -/
  escapesInBrackets : Bool := false
  /-- What admits all characters but some does not admit a line feed. -/
  byLines : Bool := false
  /-- Anchors hold at each line of a text. -/
  atLines : Bool := false
deriving Repr

/-- The basic spelling. -/
def Dialect.basic : Dialect := { bare := false }

/-- The extended spelling. -/
def Dialect.extended : Dialect := { bare := true, leading := .refused }

/-- Why a text spells no expression. -/
inductive Fault where
  | expression
  | bracket
  | range
  | className
  | element
  | group
  | closing
  | bound
  | boundContent
  | tooBig
  | backslash
  | reference
  | repetition
deriving DecidableEq, Repr

/-- The fault in words. -/
def Fault.message : Fault → String
  | .expression => "Invalid regular expression"
  | .bracket => "Unmatched [, [^, [:, [., or [="
  | .range => "Invalid range end"
  | .className => "Invalid character class name"
  | .element => "Invalid collation character"
  | .group => "Unmatched ( or \\("
  | .closing => "Unmatched ) or \\)"
  | .bound => "Unmatched \\\x7b"
  | .boundContent => "Invalid content of \\\x7b\\\x7d"
  | .tooBig => "Regular expression too big"
  | .backslash => "Trailing backslash"
  | .reference => "Invalid back reference"
  | .repetition => "Invalid preceding regular expression"

/-! ### Brackets -/

/-- The ranges of a class of characters that has a name. -/
def namedClass? (name : List Char) : Option (List (Char × Char)) :=
  match String.ofList name with
  | "alpha" => some [('a', 'z'), ('A', 'Z')]
  | "digit" => some [('0', '9')]
  | "alnum" => some [('a', 'z'), ('A', 'Z'), ('0', '9')]
  | "upper" => some [('A', 'Z')]
  | "lower" => some [('a', 'z')]
  | "space" => some [('\t', '\r'), (' ', ' ')]
  | "blank" => some [('\t', '\t'), (' ', ' ')]
  | "punct" => some [('!', '/'), (':', '@'), ('[', '\x60'), ('\x7b', '~')]
  | "print" => some [(' ', '~')]
  | "graph" => some [('!', '~')]
  | "cntrl" => some [('\x00', '\x1f'), ('\x7f', '\x7f')]
  | "xdigit" => some [('0', '9'), ('a', 'f'), ('A', 'F')]
  | _ => none

/-- What stands between brackets: single characters, which may begin a range, and sets. -/
inductive Member where
  | single (c : Char)
  | set (ranges : List (Char × Char))

/-- The text up to a mark that is followed by a closing bracket, and what comes after it. -/
def untilMark? (mark : Char) : List Char → Option (List Char × List Char)
  | [] | [_] => none
  | c :: d :: rest =>
    if c = mark ∧ d = ']' then some ([], rest)
    else (untilMark? mark (d :: rest)).map fun (name, rest) => (c :: name, rest)

/-- The character that a letter after a backslash stands for. -/
def control (c : Char) : Char :=
  match c with
  | 'n' => '\n'
  | 't' => '\t'
  | 'r' => '\r'
  | 'f' => '\x0c'
  | 'v' => '\x0b'
  | 'a' => '\x07'
  | 'b' => '\x08'
  | c => c

/-- The first member of what is left between brackets. A dash is one where it cannot be the middle
of a range. -/
def member (dialect : Dialect) (takesDash : Bool) :
    List Char → Except Fault (Member × List Char)
  | [] => .error .bracket
  | '[' :: mark :: rest =>
    if mark = ':' || mark = '=' || mark = '.' then
      match untilMark? mark rest with
      | none => .error .bracket
      | some (name, rest) =>
        match mark, namedClass? name, name with
        | ':', some ranges, _ => .ok (.set ranges, rest)
        | ':', none, _ => .error .className
        | '=', _, [c] => .ok (.set [(c, c)], rest)
        | '.', _, [c] => .ok (.single c, rest)
        | _, _, _ => .error .element
    else .ok (.single '[', mark :: rest)
  | '-' :: rest =>
    if takesDash || rest.head? = some ']' then .ok (.single '-', rest) else .error .range
  | '\\' :: c :: rest =>
    if dialect.escapesInBrackets then .ok (.single (control c), rest)
    else .ok (.single '\\', c :: rest)
  | c :: rest => .ok (.single c, rest)

/-- The members up to the closing bracket, and what comes after it. -/
def members (dialect : Dialect) (fuel : Nat) (isFirst : Bool) (s : List Char) :
    Except Fault (List (Char × Char) × List Char) := do
  match fuel with
  | 0 => throw .bracket
  | fuel + 1 =>
    let (start, rest) ← member dialect isFirst s
    let (ranges, rest) : List (Char × Char) × List Char ← match start, rest with
      | .set ranges, rest => pure (ranges, rest)
      | .single low, ['-'] => throw (if low = '-' then .range else .bracket)
      | .single low, '-' :: next :: rest =>
        if next = ']' then pure ([(low, low)], '-' :: next :: rest)
        else
          match ← member dialect true (next :: rest) with
          | (.single high, rest) =>
            if high < low && !dialect.reversedRanges then throw .range
            pure ([(low, high)], rest)
          | (.set _, _) => throw .range
      | .single c, rest => pure ([(c, c)], rest)
    match rest with
    | [] => throw .bracket
    | ']' :: rest => return (ranges, rest)
    | rest =>
      let (more, rest) ← members dialect fuel false rest
      return (ranges ++ more, rest)

/-- The expression in brackets after the opening one, and what comes after it. -/
def bracketed (dialect : Dialect) (s : List Char) : Except Fault (Expression × List Char) := do
  let (negated, s) := match s with
    | '^' :: rest => (true, rest)
    | s => (false, s)
  if s.isEmpty then throw .expression
  let (ranges, rest) ← members dialect (s.length + 1) true s
  let ranges := if negated && dialect.byLines then ('\n', '\n') :: ranges else ranges
  return (.oneOf negated ranges, rest)

/-- Whether brackets hold the name of a class between colons and nothing else, as somebody may
write who has forgotten the other brackets. -/
def isMisspelledClass (s : List Char) : Bool :=
  let s := if s.head? = some '^' then s.drop 1 else s
  let inside := s.takeWhile (· ≠ ']')
  2 < inside.length && inside.head? = some ':' && inside.getLast? = some ':'
    && !inside.contains '-' && !inside.contains '['

/-! ### Operators -/

/-- The pieces that expressions are made of. -/
inductive Token where
  | element (expression : Expression)
  /-- Something that cannot be repeated. -/
  | anchor (expression : Expression)
  | again (number : Nat)
  | bracket
  | opening
  | closing
  | bar
  /-- A repetition with the character that it is written with. -/
  | repetition (sign : Char)
  | backslash
  | ending

/-- The operator that a character is. -/
def operator? (c : Char) : Option Token :=
  match c with
  | '(' => some .opening
  | ')' => some .closing
  | '|' => some .bar
  | '+' | '?' | '\x7b' => some (.repetition c)
  | _ => none

/-- What a character after a backslash means that is no operator. -/
def escaped (dialect : Dialect) (c : Char) : Token :=
  let word := [('a', 'z'), ('A', 'Z'), ('0', '9'), ('_', '_')]
  let blank := [('\t', '\r'), (' ', ' ')]
  let plain : Token :=
    .element (.character (if dialect.controls then control c else c))
  if !dialect.references then plain
  else if '1' ≤ c && c ≤ '9' then .again (c.toNat - 48)
  else
    match c with
    | 'w' => .element (.oneOf false word)
    | 'W' => .element (.oneOf true word)
    | 's' => .element (.oneOf false blank)
    | 'S' => .element (.oneOf true blank)
    | 'b' => .anchor (.wordEdge true true)
    | 'B' => .anchor .noEdge
    | '<' => .anchor (.wordEdge true false)
    | '>' => .anchor (.wordEdge false true)
    | '\x60' => .anchor .lineStart
    | '\'' => .anchor .lineEnd
    | _ => plain

/-- The first token of a text, and what comes after it; `starts` tells that a basic expression or
one of its groups or alternatives starts here. -/
def tokenOf (dialect : Dialect) (starts : Bool) : List Char → Token × List Char
  | [] => (.ending, [])
  | ['\\'] => (.backslash, [])
  | '\\' :: c :: rest =>
    ((if dialect.bare then none else operator? c).getD (escaped dialect c), rest)
  | '.' :: rest =>
    (.element (if dialect.byLines then .oneOf true [('\n', '\n')] else .any), rest)
  | '[' :: rest => (.bracket, rest)
  | '*' :: rest => (.repetition '*', rest)
  | '^' :: rest =>
    let anchor : Expression :=
      if dialect.atLines then .either .lineStart .afterFeed else .lineStart
    (if dialect.bare || starts then .anchor anchor else .element (.character '^'), rest)
  | '$' :: rest =>
    let ends : Bool := match rest with
      | [] | '\\' :: ')' :: _ | '\\' :: '|' :: _ => true
      | _ => false
    let anchor : Expression := if dialect.atLines then .either .lineEnd .beforeFeed else .lineEnd
    (if dialect.bare || ends then .anchor anchor else .element (.character '$'), rest)
  | c :: rest =>
    ((if dialect.bare then operator? c else none).getD (.element (.character c)), rest)

/-! ### Bounds -/

/-- How often something may be repeated. -/
def repetitionLimit : Nat := 32767

/-- One of two bounds: it may be missing, be a number, or be none. -/
inductive Bound where
  | missing
  | number (n : Nat)
  | wrong
deriving DecidableEq

/-- What stands behind a bound. -/
inductive BoundEnd where
  | comma
  | brace
  | ending
deriving DecidableEq

/-- A bound, what stands behind it, and what comes after that. -/
def boundOf (bare : Bool) (bound : Bound) : List Char → (Bound × BoundEnd) × List Char
  | [] => ((.wrong, .ending), [])
  | ',' :: rest => ((bound, .comma), rest)
  | '\x7d' :: rest =>
    if bare then ((bound, .brace), rest) else boundOf bare .wrong rest
  | '\\' :: c :: rest =>
    if c = '\x7d' && !bare then ((bound, .brace), rest) else boundOf bare .wrong rest
  | c :: rest =>
    let digit := c.toNat - 48
    let next : Bound :=
      if !c.isDigit then .wrong
      else
        match bound with
        | .missing => .number digit
        | .number n => .number (min (repetitionLimit + 1) (10 * n + digit))
        | .wrong => .wrong
    boundOf bare next rest

/-- The least and the greatest count after an opening brace, and what comes after the closing one;
nothing if the brace stands for itself. -/
def boundsOf (dialect : Dialect) (s : List Char) :
    Except Fault (Option ((Nat × Option Nat) × List Char)) := do
  let ((first, stop), rest) := boundOf dialect.bare .missing s
  let first : Bound := if first = .missing && stop = .comma then .number 0 else first
  if first = .missing then throw .boundContent
  let ((last, stop), rest) :=
    if first ≠ .wrong && stop = .comma then boundOf dialect.bare .missing rest
    else ((first, stop), rest)
  match first, last with
  | .wrong, _ | _, .wrong =>
    if dialect.looseBounds then return none
    throw (if stop = .ending then .bound else .boundContent)
  | first, last =>
    let least := match first with
      | .number n => n
      | _ => 0
    let most := match last with
      | .number n => some n
      | _ => none
    if stop ≠ .brace || most.any (· < least) then throw .boundContent
    if repetitionLimit < most.getD least then throw .tooBig
    return some ((least, most), rest)

/-! ### Expressions -/

/-- What a reader of expressions has left. -/
structure Reading where
  rest : List Char
  /-- An expression, a group or an alternative starts here. -/
  starts : Bool := true
  /-- The next character stands for itself. -/
  isPlain : Bool := false
  /-- How many groups have been opened. -/
  groups : Nat := 0
  /-- The groups that are closed and can be referred to. -/
  complete : List Nat := []
  /-- The signs of repetitions that had nothing to repeat and were skipped. -/
  skipped : List Char := []
  /-- A class may have been misspelled. -/
  isDoubtful : Bool := false

/-- The token that comes next, and the reading after it. -/
def Reading.token (dialect : Dialect) (reading : Reading) : Token × Reading :=
  let (token, rest) := tokenOf dialect reading.starts reading.rest
  (token, { reading with rest, starts := false })

/-- Puts the repetitions that follow around an expression. -/
def withRepetitions (dialect : Dialect) (fuel : Nat) (expression : Expression)
    (reading : Reading) : Except Fault (Expression × Reading) := do
  match fuel with
  | 0 => return (expression, reading)
  | fuel + 1 =>
    match reading.token dialect with
    | (.repetition sign, next) =>
      let again (least : Nat) (most : Option Nat) (next : Reading) :
          Except Fault (Expression × Reading) := do
        if !dialect.stacked then
          match (next.token dialect).1 with
          | .repetition sign => if sign = '*' || sign = '\x7b' then throw Fault.repetition
          | _ => pure ()
        withRepetitions dialect fuel (.repeated expression least most) next
      match sign with
      | '*' => again 0 none next
      | '+' => again 1 none next
      | '?' => again 0 (some 1) next
      | _ =>
        match ← boundsOf dialect next.rest with
        | some ((least, most), rest) => again least most { next with rest }
        | none => return (expression, { reading with isPlain := true })
    | _ => return (expression, reading)

mutual

/-- Reads alternatives up to the end of the text or of the group that they are in. -/
def readAlternatives (dialect : Dialect) (fuel : Nat) (inGroup : Bool) (reading : Reading) :
    Except Fault (Expression × Reading) := do
  match fuel with
  | 0 => throw .expression
  | fuel + 1 =>
    let (left, after) ← readBranch dialect fuel inGroup .empty reading
    match after.token dialect with
    | (.bar, next) =>
      let (right, last) ← readAlternatives dialect fuel inGroup
        { next with starts := true, complete := reading.complete }
      return (.either left right, { last with complete := after.complete ++ last.complete })
    | _ => return (left, after)

/-- Reads elements one after the other, behind what has been read before. -/
def readBranch (dialect : Dialect) (fuel : Nat) (inGroup : Bool) (before : Expression)
    (reading : Reading) : Except Fault (Expression × Reading) := do
  match fuel with
  | 0 => throw .expression
  | fuel + 1 =>
    match (reading.token dialect).1, inGroup with
    | .bar, _ | .ending, _ | .closing, true => return (before, reading)
    | _, _ =>
      let (element, after) ← readElement dialect fuel reading
      readBranch dialect fuel inGroup (before.join element) after

/-- Reads an element with its repetitions. -/
def readElement (dialect : Dialect) (fuel : Nat) (reading : Reading) :
    Except Fault (Expression × Reading) := do
  match fuel with
  | 0 => throw .expression
  | fuel + 1 =>
    let more (expression : Expression) (reading : Reading) : Except Fault (Expression × Reading) :=
      withRepetitions dialect (reading.rest.length + 1) expression reading
    match reading.isPlain, reading.rest with
    | true, c :: rest =>
      more (.character c) { reading with rest, starts := false, isPlain := false }
    | _, _ =>
      match reading.token dialect with
      | (.element expression, next) => more expression next
      | (.anchor expression, next) => return (expression, next)
      | (.again number, next) =>
        if !reading.complete.contains number then throw .reference
        more (.again number) next
      | (.bracket, next) =>
        let (expression, rest) ← bracketed dialect next.rest
        more expression
          { next with rest, isDoubtful := next.isDoubtful || isMisspelledClass next.rest }
      | (.opening, next) =>
        let number := next.groups + 1
        let (inside, after) ← readAlternatives dialect fuel true
          { next with starts := true, groups := number }
        match after.token dialect with
        | (.closing, next) =>
          more (.group number inside) { next with complete := number :: next.complete }
        | _ => throw .group
      | (.closing, next) =>
        if !dialect.looseClosing then throw .closing
        more (.character ')') next
      | (.repetition sign, next) =>
        if sign = '\x7b' && !dialect.stacked then throw .repetition
        match dialect.leading with
        | .refused => throw .repetition
        | .literal => more (.character sign) next
        | .skipped =>
          let next := { next with skipped := sign :: next.skipped }
          let next ← if sign ≠ '\x7b' then pure next
            else
              match ← boundsOf dialect next.rest with
              | some (_, rest) => pure { next with rest }
              | none => pure { reading with isPlain := true }
          match (next.token dialect).1 with
          | .bar | .ending => return (.empty, next)
          | _ => readElement dialect fuel next
      | (.backslash, _) => throw .backslash
      | (.bar, _) | (.ending, _) => return (.empty, reading)

end

/-- An expression with what may be remarked about its spelling. -/
structure Spelled where
  expression : Expression
  /-- The signs of repetitions that had nothing to repeat, in order. -/
  skipped : List Char
  /-- Brackets look like a class without its own brackets. -/
  isDoubtful : Bool

/-- The remark about brackets that look like a class without its own brackets. -/
def doubt : String := "character class syntax is [[:space:]], not [:space:]"

/-- Reads an expression with what may be remarked about it. -/
def Dialect.read (dialect : Dialect) (s : List Char) : Except Fault Spelled := do
  let (expression, reading) ← readAlternatives dialect (4 * s.length + 8) false { rest := s }
  return ⟨expression, reading.skipped.reverse, reading.isDoubtful⟩

/-- Reads an expression. -/
def Dialect.parse (dialect : Dialect) (s : List Char) : Except Fault Expression :=
  (dialect.read s).map Spelled.expression

end CheckedBuild.Text.Regular
