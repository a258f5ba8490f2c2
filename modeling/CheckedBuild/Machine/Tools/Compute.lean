import CheckedBuild.Machine.Tools.Files
import CheckedBuild.Text.Regular.Spelling

/-!
# Tools that compute

An expression is given as arguments, one for every operand and sign. Its operands are texts, which
count as integers where they look like that.
-/

namespace CheckedBuild.Machine.Tools

open Process

/-- What is left of the arguments, and the last one that was taken. -/
structure Operands where
  rest : List (List Char)
  last : List Char := []

/-- Steps of a computation, which may end with a complaint. -/
abbrev Computation := StateT Operands (Except (List Char))

/-- The integer that a text writes. -/
def integerOf? (s : List Char) : Option Int :=
  match s with
  | '-' :: digits => (Text.natural? digits).map fun n => -(n : Int)
  | digits => (Text.natural? digits).map fun n => (n : Int)

/-- The integer that an operand has to be. -/
def needInteger (s : List Char) : Computation Int :=
  match integerOf? s with
  | some n => return n
  | none => throw "non-integer argument".toList

/-- Whether a value counts as nothing: no text or zero. -/
def isNothing (s : List Char) : Bool :=
  let digits := if s.head? = some '-' then s.drop 1 else s
  s.isEmpty || (!digits.isEmpty && digits.all (· = '0'))

/-- Takes a sign if it comes next. -/
def acceptSign (sign : String) : Computation Bool :=
  modifyGet fun operands =>
    match operands.rest with
    | s :: rest => if s = sign.toList then (true, ⟨rest, s⟩) else (false, operands)
    | [] => (false, operands)

/-- Takes the next argument. -/
def takeOperand : Computation (List Char) := do
  match (← get).rest with
  | s :: rest =>
    set (Operands.mk rest s)
    return s
  | [] =>
    throw ("syntax error: missing argument after '".toList ++ (← get).last ++ ['\''])

/-- What a text matches from its beginning on: a group, or how much. -/
def matchStart (s pattern : List Char) : Computation (List Char) := do
  match { Text.Regular.Dialect.basic with reversedRanges := true }.parse pattern with
  | .error fault => throw fault.message.toList
  | .ok expression =>
    let text := s.toArray
    let hasGroup := Text.Regular.search (Text.Regular.literal "\\(".toList) false
      pattern.toArray 0 |>.isSome
    match Text.Regular.longest (Text.Regular.ends text false expression 0 []) with
    | some (last, groups) =>
      if hasGroup then
        match groups.lookup 1 with
        | some (first, last) => return (text.extract first last).toList
        | none => return []
      else return decimal last
    | none => return if hasGroup then [] else ['0']

mutual

/-- An operand: a text, an expression in parentheses or a function of texts. -/
def primary (fuel : Nat) (evaluates : Bool) : Computation (List Char) := do
  match fuel with
  | 0 => return []
  | fuel + 1 =>
    if ← acceptSign "(" then
      let value ← choiceOf fuel evaluates
      if ← acceptSign ")" then return value
      match (← get).rest with
      | s :: _ => throw ("syntax error: expecting ')' instead of '".toList ++ s ++ ['\''])
      | [] => throw ("syntax error: expecting ')' after '".toList ++ (← get).last ++ ['\''])
    if ← acceptSign ")" then throw "syntax error: unexpected ')'".toList
    if ← acceptSign "+" then return ← takeOperand
    if ← acceptSign "length" then
      return decimal (← primary fuel evaluates).length
    if ← acceptSign "match" then
      let s ← primary fuel evaluates
      let pattern ← primary fuel evaluates
      if evaluates then return ← matchStart s pattern
      return s
    if ← acceptSign "index" then
      let s ← primary fuel evaluates
      let wanted ← primary fuel evaluates
      let place := (s.findIdx? fun c => wanted.contains c).map (· + 1)
      return decimal (place.getD 0)
    if ← acceptSign "substr" then
      let s ← primary fuel evaluates
      let start ← primary fuel evaluates
      let length ← primary fuel evaluates
      match integerOf? start, integerOf? length with
      | some start, some length =>
        if start < 1 || length < 1 then return []
        return (s.drop (start.toNat - 1)).take length.toNat
      | _, _ => return []
    takeOperand

/-- Matches. -/
def matchOf (fuel : Nat) (evaluates : Bool) : Computation (List Char) := do
  match fuel with
  | 0 => return []
  | fuel + 1 => matchMore fuel evaluates (← primary fuel evaluates)

/-- The patterns after a text. -/
def matchMore (fuel : Nat) (evaluates : Bool) (left : List Char) : Computation (List Char) := do
  match fuel with
  | 0 => return left
  | fuel + 1 =>
    if !(← acceptSign ":") then return left
    let pattern ← primary fuel evaluates
    matchMore fuel evaluates (← if evaluates then matchStart left pattern else pure left)

/-- A product. -/
def productOf (fuel : Nat) (evaluates : Bool) : Computation (List Char) := do
  match fuel with
  | 0 => return []
  | fuel + 1 => productMore fuel evaluates (← matchOf fuel evaluates)

/-- The factors after a number. -/
def productMore (fuel : Nat) (evaluates : Bool) (left : List Char) :
    Computation (List Char) := do
  match fuel with
  | 0 => return left
  | fuel + 1 =>
    let isTimes ← acceptSign "*"
    let divides ← if isTimes then pure false else acceptSign "/"
    let isRest ← if isTimes || divides then pure false else acceptSign "%"
    if !isTimes && !divides && !isRest then return left
    let right ← matchOf fuel evaluates
    if !evaluates then return ← productMore fuel evaluates left
    let m ← needInteger left
    let n ← needInteger right
    if !isTimes && n = 0 then throw "division by zero".toList
    let result := if isTimes then m * n else if divides then Int.tdiv m n else Int.tmod m n
    productMore fuel evaluates (decimalOf result)

/-- A sum. -/
def sumOf (fuel : Nat) (evaluates : Bool) : Computation (List Char) := do
  match fuel with
  | 0 => return []
  | fuel + 1 => sumMore fuel evaluates (← productOf fuel evaluates)

/-- The summands after a number. -/
def sumMore (fuel : Nat) (evaluates : Bool) (left : List Char) : Computation (List Char) := do
  match fuel with
  | 0 => return left
  | fuel + 1 =>
    let adds ← acceptSign "+"
    let subtracts ← if adds then pure false else acceptSign "-"
    if !adds && !subtracts then return left
    let right ← productOf fuel evaluates
    if !evaluates then return ← sumMore fuel evaluates left
    let m ← needInteger left
    let n ← needInteger right
    sumMore fuel evaluates (decimalOf (if adds then m + n else m - n))

/-- A comparison. -/
def comparisonOf (fuel : Nat) (evaluates : Bool) : Computation (List Char) := do
  match fuel with
  | 0 => return []
  | fuel + 1 => comparisonMore fuel evaluates (← sumOf fuel evaluates)

/-- The comparisons after a value: of numbers if both are such, else of texts. -/
def comparisonMore (fuel : Nat) (evaluates : Bool) (left : List Char) :
    Computation (List Char) := do
  match fuel with
  | 0 => return left
  | fuel + 1 =>
    match (← get).rest with
    | [] => return left
    | sign :: rest =>
      let sign := String.ofList sign
      if sign ∉ ["<", "<=", "=", "==", "!=", ">=", ">"] then return left
      set (Operands.mk rest sign.toList)
      let right ← sumOf fuel evaluates
      let order : Ordering := match integerOf? left, integerOf? right with
        | some m, some n => compare m n
        | _, _ => if left = right then .eq else if left ≤ right then .lt else .gt
      let holds : Bool := match sign with
        | "<" => order = .lt
        | "<=" => order ≠ .gt
        | "=" | "==" => order = .eq
        | "!=" => order ≠ .eq
        | ">=" => order ≠ .lt
        | _ => order = .gt
      comparisonMore fuel evaluates (if holds then ['1'] else ['0'])

/-- Values that all have to be something. -/
def bothOf (fuel : Nat) (evaluates : Bool) : Computation (List Char) := do
  match fuel with
  | 0 => return []
  | fuel + 1 => bothMore fuel evaluates (← comparisonOf fuel evaluates)

/-- The values that have to be something besides another one. -/
def bothMore (fuel : Nat) (evaluates : Bool) (left : List Char) : Computation (List Char) := do
  match fuel with
  | 0 => return left
  | fuel + 1 =>
    if !(← acceptSign "&") then return left
    let right ← comparisonOf fuel (evaluates && !isNothing left)
    bothMore fuel evaluates (if isNothing left || isNothing right then ['0'] else left)

/-- Values of which the first that is something counts. -/
def choiceOf (fuel : Nat) (evaluates : Bool) : Computation (List Char) := do
  match fuel with
  | 0 => return []
  | fuel + 1 => choiceMore fuel evaluates (← bothOf fuel evaluates)

/-- The values that count if another one is nothing. -/
def choiceMore (fuel : Nat) (evaluates : Bool) (left : List Char) : Computation (List Char) := do
  match fuel with
  | 0 => return left
  | fuel + 1 =>
    if !(← acceptSign "|") then return left
    let right ← bothOf fuel (evaluates && isNothing left)
    choiceMore fuel evaluates
      (if !isNothing left then left else if isNothing right then ['0'] else right)

end

/-- Computes an expression. -/
def expr (process : Process) : Step Nat := do
  let arguments := match process.arguments with
    | ['-', '-'] :: rest => rest
    | arguments => arguments
  if arguments.isEmpty then return ← misuse process "missing operand".toList 2
  let computation : Computation (List Char) := do
    let value ← choiceOf (10 * arguments.length + 20) true
    match (← get).rest with
    | [] => return value
    | s :: _ => throw ("syntax error: unexpected argument '".toList ++ s ++ ['\''])
  match computation.run { rest := arguments } with
  | .ok (value, _) =>
    process.say (closed value)
    return if isNothing value then 1 else 0
  | .error message =>
    process.complain message
    return 2

/-- The prime factors of a number, the smallest first. -/
def primeFactors (fuel n divisor : Nat) : List Nat :=
  match fuel with
  | 0 => [n]
  | fuel + 1 =>
    if n < 2 then []
    else if n < divisor * divisor then [n]
    else if n % divisor = 0 then divisor :: primeFactors fuel (n / divisor) divisor
    else primeFactors fuel n (divisor + 1)

/-- Factors in writing, equal ones perhaps as a power. -/
def shownFactors (asPowers : Bool) (factors : List Nat) : List Char :=
  if asPowers then
    (factors.splitBy (· == ·)).flatMap fun group =>
      ' ' :: decimal (group.headD 1)
        ++ if group.length = 1 then [] else '^' :: decimal group.length
  else factors.flatMap fun p => ' ' :: decimal p

/-- Prints the prime factors of numbers. -/
def factor (process : Process) : Step Nat :=
  process.withOptions { plain := "h", words := [("exponents", 'h')] } 1 fun options => do
    let isBlank (c : Char) : Bool := c = ' ' || c = '\t' || c = '\n'
    let words : Except Refusal (List (List Char)) ←
      if options.operands.isEmpty then do
        match ← process.openInput none with
        | .ok number =>
          let s ← readAll number
          let words := s.splitBy fun a b => isBlank a == isBlank b
          pure (.ok (words.filter fun word => !word.all isBlank))
        | .error refusal => pure (.error refusal)
      else pure (.ok options.operands)
    match words with
    | .error refusal =>
      process.complain ("error reading input: ".toList ++ refusal.complaint.toList)
      return 1
    | .ok words =>
      -- the output is written when all is done
      collected process words fun s => do
        let digits := s.dropWhile (· = ' ')
        match Text.natural? (if digits.head? = some '+' then digits.drop 1 else digits) with
        | some n =>
          let factors := primeFactors 10000000 n 2
          return some (closed (decimal n ++ ':' :: shownFactors (options.has 'h') factors))
        | none =>
          process.complain (marked s ++ " is not a valid positive integer".toList)
          return none

end CheckedBuild.Machine.Tools
