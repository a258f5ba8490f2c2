import CheckedBuild.Machine.Raw
import CheckedBuild.Shell.Syntax

/-!
# Arithmetic in shell scripts

An expression is made of numbers, variables, parentheses and operators on integers of 64 bits.
Assignments change variables as soon as they are reached; what a conditional does not choose is
read but not evaluated.
-/

namespace CheckedBuild.Shell.Arithmetic

open CheckedBuild.Machine

/-- A lexical unit of an expression. -/
inductive Symbol where
  | number (n : Int)
  | name (name : List Char)
  | operator (text : String)
  | stray
deriving DecidableEq, Repr

/-- An integer brought into the range of 64 bits. -/
def wrap (n : Int) : Int := n.bmod (Nat.pow 2 64)

/-- An integer brought to the nearest one in the range of 64 bits. -/
def clamp (n : Int) : Int := max (-(Int.pow 2 63)) (min (Int.pow 2 63 - 1) n)

/-- The bits of an integer. -/
def bits (n : Int) : Nat := (n % Int.pow 2 64).toNat

/-- Whether a truth value is shown as one or zero. -/
def ofBool (p : Bool) : Int := if p then 1 else 0

/-- The operators with two operands, those that bind tightest first. -/
def binaryLevels : List (List String) :=
  [["*", "/", "%"], ["+", "-"], ["<<", ">>"], ["<", "<=", ">", ">="], ["==", "!="], ["&"], ["^"],
   ["|"]]

/-- How loosely an operator binds. -/
def level? (operator : String) : Option Nat :=
  let level := binaryLevels.findIdx fun operators => operators.contains operator
  if level < binaryLevels.length then some level else none

/-- The value of an operator; nothing for a division by zero. -/
def applyOperator (operator : String) (a b : Int) : Option Int :=
  match operator with
  | "*" => some (wrap (a * b))
  | "/" => if b = 0 then none else some (wrap (a.tdiv b))
  | "%" => if b = 0 then none else some (a.tmod b)
  | "+" => some (wrap (a + b))
  | "-" => some (wrap (a - b))
  | "<<" => some (wrap (bits a * Int.pow 2 (bits b % 64)))
  | ">>" => some (a / Int.pow 2 (bits b % 64))
  | "<" => some (ofBool (a < b))
  | "<=" => some (ofBool (a ≤ b))
  | ">" => some (ofBool (b < a))
  | ">=" => some (ofBool (b ≤ a))
  | "==" => some (ofBool (a = b))
  | "!=" => some (ofBool (a ≠ b))
  | "&" => some (wrap (bits a &&& bits b))
  | "^" => some (wrap (bits a ^^^ bits b))
  | "|" => some (wrap (bits a ||| bits b))
  | _ => some b

/-- The operators in writing; one that begins with another one comes before it. -/
def written : List String :=
  ["<<=", ">>=", "<<", ">>", "<=", ">=", "==", "!=", "&&", "||", "*=", "/=", "%=", "+=", "-=",
   "&=", "^=", "|=", "<", ">", "*", "/", "%", "+", "-", "&", "^", "|", "!", "~", "?", ":", "(",
   ")", "="]

/-- The value of digits in a base, and what follows them. -/
def digitsIn (base : Nat) (value : Nat) : List Char → Nat × List Char
  | [] => (value, [])
  | c :: rest =>
    let digit :=
      if c.isDigit then c.toNat - 48
      else if c.isAlpha then c.toLower.toNat - 87
      else base
    if digit < base then digitsIn base (value * base + digit) rest else (value, c :: rest)

/-- A number at the start of a text, octal after a zero and hexadecimal after `0x`. -/
def readNumber (s : List Char) : Nat × List Char :=
  match s with
  | '0' :: x :: c :: rest =>
    if (x = 'x' || x = 'X') && (digitsIn 16 0 [c]).2.isEmpty then digitsIn 16 0 (c :: rest)
    else digitsIn 8 0 s
  | '0' :: _ => digitsIn 8 0 s
  | _ => digitsIn 10 0 s

/-- Takes an expression apart. -/
def symbols (fuel : Nat) (s : List Char) : List Symbol :=
  match fuel with
  | 0 => []
  | fuel + 1 =>
    match s with
    | [] => []
    | c :: rest =>
      if c = ' ' || c = '\t' || c = '\n' then symbols fuel rest
      else if c.isDigit then
        let (n, rest) := readNumber s
        .number (clamp n) :: symbols fuel rest
      else if beginsName c then
        .name (s.takeWhile continuesName) :: symbols fuel (s.dropWhile continuesName)
      else
        match written.find? fun operator => operator.toList.isPrefixOf s with
        | some operator => .operator operator :: symbols fuel (s.drop operator.length)
        | none => [.stray]

/-- Why an expression has no value. -/
inductive Fault where
  | expecting (what : String)
  | divisionByZero
  | notNumber (text : List Char)
  | readOnly (name : List Char)
deriving DecidableEq, Repr

/-- What is left of an expression, and the variables. -/
structure Progress where
  rest : List Symbol
  /-- The value of a variable. -/
  value? : List Char → Option (List Char)
  isReadOnly : List Char → Bool
  /-- The assignments made so far, the last one first. -/
  assigned : List (List Char × Int) := []

/-- A step of an evaluation. -/
abbrev Step := EStateM Fault Progress

/-- The integer that a text stands for, with blanks around it. -/
def integerIn? (s : List Char) : Option Int :=
  let isSpace (c : Char) : Bool := c = ' ' || ('\t' ≤ c && c ≤ '\r')
  let s := s.dropWhile isSpace
  let (negative, digits) := match s with
    | '-' :: digits => (true, digits)
    | '+' :: digits => (false, digits)
    | digits => (false, digits)
  let (n, rest) := readNumber digits
  if s.all isSpace then some 0
  else if rest.length = digits.length || !rest.all isSpace then none
  else some (clamp (if negative then -n else n))

/-- The value of a variable; one that is not set counts as zero. -/
def variableValue (name : List Char) : Step Int := do
  let progress ← get
  match progress.assigned.lookup name with
  | some n => return n
  | none =>
    let text := (progress.value? name).getD []
    match integerIn? text with
    | some n => return n
    | none => throw (.notNumber text)

/-- Takes the next symbol. -/
def take : Step (Option Symbol) :=
  modifyGet fun progress => (progress.rest.head?, { progress with rest := progress.rest.tail })

/-- The next symbol, which is not taken. -/
def ahead : Step (Option Symbol) := return (← get).rest.head?

/-- The value of an operator. -/
def combine (operator : String) (a b : Int) : Step Int :=
  match applyOperator operator a b with
  | some n => return n
  | none => throw .divisionByZero

mutual

/-- An operand with the signs before it; without `live` nothing is evaluated. -/
def operand (fuel : Nat) (live : Bool) : Step Int := do
  match fuel with
  | 0 => throw (.expecting "primary")
  | fuel + 1 =>
    match ← take with
    | some (.number n) => return n
    | some (.name name) => if live then variableValue name else return 0
    | some (.operator "+") => operand fuel live
    | some (.operator "-") => return wrap (-(← operand fuel live))
    | some (.operator "!") => return ofBool ((← operand fuel live) = 0)
    | some (.operator "~") => return -(← operand fuel live) - 1
    | some (.operator "(") =>
      let n ← assignment fuel live
      if (← take) ≠ some (.operator ")") then throw (.expecting "')'")
      return n
    | _ => throw (.expecting "primary")

/-- Operands joined by operators that bind at least as tightly as a level; the first one may have
been read. -/
def binary (fuel : Nat) (live : Bool) (level : Nat) (left : Option Int) : Step Int := do
  match fuel with
  | 0 => throw (.expecting "primary")
  | fuel + 1 =>
    match left with
    | none => binary fuel live level (some (← operand fuel live))
    | some left =>
      match ← ahead with
      | some (.operator text) =>
        match level? text with
        | some found =>
          if level < found then return left
          let _ ← take
          let right ←
            match found with
            | 0 => operand fuel live
            | tighter + 1 => binary fuel live tighter none
          let value ← if live then combine text left right else pure right
          binary fuel live level (some value)
        | none => return left
      | _ => return left

/-- Conditions joined by `&&`. -/
def conjunction (fuel : Nat) (live : Bool) : Step Int := do
  match fuel with
  | 0 => throw (.expecting "primary")
  | fuel + 1 =>
    let left ← binary fuel live binaryLevels.length none
    if (← ahead) ≠ some (.operator "&&") then return left
    let _ ← take
    let right ← conjunction fuel (live && left ≠ 0)
    return ofBool (left ≠ 0 && right ≠ 0)

/-- Conditions joined by `||`. -/
def disjunction (fuel : Nat) (live : Bool) : Step Int := do
  match fuel with
  | 0 => throw (.expecting "primary")
  | fuel + 1 =>
    let left ← conjunction fuel live
    if (← ahead) ≠ some (.operator "||") then return left
    let _ ← take
    let right ← disjunction fuel (live && left = 0)
    return ofBool (left ≠ 0 || right ≠ 0)

/-- A conditional expression. -/
def conditional (fuel : Nat) (live : Bool) : Step Int := do
  match fuel with
  | 0 => throw (.expecting "primary")
  | fuel + 1 =>
    let condition ← disjunction fuel live
    if (← ahead) ≠ some (.operator "?") then return condition
    let _ ← take
    let yes ← assignment fuel (live && condition ≠ 0)
    if (← take) ≠ some (.operator ":") then throw (.expecting "':'")
    let no ← conditional fuel (live && condition = 0)
    return if condition ≠ 0 then yes else no

/-- An assignment or a conditional expression. -/
def assignment (fuel : Nat) (live : Bool) : Step Int := do
  match fuel with
  | 0 => throw (.expecting "primary")
  | fuel + 1 =>
    match (← get).rest with
    | .name name :: .operator text :: rest =>
      let isAssignment := text = "="
        || (text.endsWith "=" && (level? (text.dropEnd 1).toString).isSome && (level? text).isNone)
      if !isAssignment then conditional fuel live
      else
        modify fun progress => { progress with rest }
        let right ← assignment fuel live
        if !live then return right
        let value ←
          if text = "=" then pure right
          else combine (text.dropEnd 1).toString (← variableValue name) right
        if (← get).isReadOnly name then throw (.readOnly name)
        modify fun progress => { progress with assigned := (name, value) :: progress.assigned }
        return value
    | _ => conditional fuel live

end

/-- The value of an expression, if it has one, and the assignments that it made, the last one
first. -/
def valueOf (value? : List Char → Option (List Char)) (isReadOnly : List Char → Bool)
    (s : List Char) : Except Fault Int × List (List Char × Int) :=
  let rest := symbols (s.length + 1) s
  let step : Step Int := do
    let value ← assignment (20 * rest.length + 20) true
    if (← ahead).isSome then throw (.expecting "EOF")
    return value
  match step.run { rest, value?, isReadOnly } with
  | .ok value progress => (.ok value, progress.assigned)
  | .error fault progress => (.error fault, progress.assigned)

/-- The fault in words; `s` is the expression. -/
def Fault.message (s : List Char) : Fault → List Char
  | .expecting what =>
    "arithmetic expression: expecting ".toList ++ what.toList ++ ": \"".toList ++ s ++ ['"']
  | .divisionByZero => "arithmetic expression: division by zero: \"".toList ++ s ++ ['"']
  | .notNumber text => "Illegal number: ".toList ++ text
  | .readOnly name => name ++ ": is read only".toList

end CheckedBuild.Shell.Arithmetic
