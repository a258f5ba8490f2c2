import CheckedBuild.Machine.Kernel
import CheckedBuild.Shell.Arithmetic

/-!
# Conditions

The conditions of `test` are made of operands, operators on files, texts and numbers, and the
signs for not, and, or, and parentheses. What a sign means depends on how many arguments there
are and on those after it.
-/

namespace CheckedBuild.Shell.Test

open CheckedBuild.Machine

/-- The kinds of operators. -/
inductive Kind where
  | unary
  | binary
  | negation
  | conjunction
  | disjunction
  | opening
  | closing
deriving DecidableEq, Repr

/-- The kind of an operator. -/
def kind? (s : List Char) : Option Kind :=
  match String.ofList s with
  | "!" => some .negation
  | "-a" => some .conjunction
  | "-o" => some .disjunction
  | "(" => some .opening
  | ")" => some .closing
  | text =>
    if ["-r", "-w", "-x", "-e", "-f", "-d", "-c", "-b", "-p", "-u", "-g", "-k", "-s", "-t", "-z",
        "-n", "-h", "-O", "-G", "-L", "-S"].contains text then some .unary
    else if ["=", "!=", "<", ">", "-eq", "-ne", "-ge", "-gt", "-le", "-lt", "-nt", "-ot",
        "-ef"].contains text then some .binary
    else none

/-- What a condition is evaluated on. -/
structure Setting where
  kernel : Kernel
  descriptors : Descriptors
  arguments : Array (List Char)

/-- The node that a path leads to. -/
def Setting.node? (setting : Setting) (path : List Char) (through : Bool := true) :
    Option Node :=
  ((setting.kernel.find setting.descriptors (textOfRaw path) through).toOption).map (·.2)

/-- The number of the node that a path leads to. -/
def Setting.number? (setting : Setting) (path : List Char) : Option Nat :=
  ((setting.kernel.files.resolve (textOfRaw path)).toOption).bind setting.kernel.files.number?

/-- Why a condition has no value. -/
abbrev Fault := List Char

/-- A step of an evaluation, which moves along the arguments. -/
abbrev Step := ReaderT Setting (EStateM Fault Nat)

/-- The argument at a place. -/
def argument? (place : Nat) : Step (Option (List Char)) := return (← read).arguments[place]?

/-- The operator at a place, unless it has to be an operand there. -/
def operator? (place : Nat) : Step (Option Kind) := do
  match ← argument? place with
  | none => return none
  | some s =>
    let next ← argument? (place + 1)
    let isOperand ←
      match next with
      | none => pure true
      | some next =>
        if (← argument? (place + 2)).isNone then pure false
        else pure (kind? next = some .binary)
    match kind? s with
    | some .unary => return if isOperand then none else some .unary
    | some .opening => return if next.isNone then none else some .opening
    | kind => return kind

/-- The integer that an argument gives. -/
def integer (s : List Char) : Step Int := do
  let isSpace (c : Char) : Bool := c = ' ' || ('\t' ≤ c && c ≤ '\r')
  let trimmed := s.dropWhile isSpace
  let (negative, digits) := match trimmed with
    | '-' :: digits => (true, digits)
    | '+' :: digits => (false, digits)
    | digits => (false, digits)
  let (n, rest) := Arithmetic.digitsIn 10 0 digits
  if rest.length = digits.length || !rest.all isSpace then
    throw ("Illegal number: ".toList ++ s)
  else return Arithmetic.clamp (if negative then -n else n)

/-- What an operator with one operand says. -/
def unaryValue (setting : Setting) (operator operand : List Char) : Bool :=
  let isKind (p : Node → Bool) : Bool := (setting.node? operand).any p
  let hasMode (bits : Nat) : Bool := isKind fun node => node.mode &&& bits != 0
  match String.ofList operator with
  | "-n" => !operand.isEmpty
  | "-z" => operand.isEmpty
  | "-e" | "-r" | "-w" | "-O" | "-G" => isKind fun _ => true
  | "-f" => isKind Node.isRegular
  | "-d" => isKind Node.isDirectory
  | "-c" => isKind fun node => node.letter = 'c'
  | "-p" => isKind fun node => node.letter = 'p'
  | "-h" | "-L" => (setting.node? operand false).any Node.isLink
  | "-x" => isKind fun node => node.isDirectory || node.mode &&& 0o111 != 0
  | "-s" => isKind fun node => 0 < node.size
  | "-u" => hasMode 0o4000
  | "-g" => hasMode 0o2000
  | "-k" => hasMode 0o1000
  | _ => false

/-- What an operator with two operands says. -/
def binaryValue (operator left right : List Char) : Step Bool := do
  let setting ← read
  let times (p : Nat → Nat → Bool) : Bool :=
    match setting.node? left, setting.node? right with
    | some a, some b => p a.changed b.changed
    | _, _ => false
  let compare (p : Int → Int → Bool) : Step Bool := do
    return p (← integer left) (← integer right)
  match String.ofList operator with
  | "=" => return left = right
  | "!=" => return left ≠ right
  | "<" => return left < right
  | ">" => return right < left
  | "-eq" => compare (· = ·)
  | "-ne" => compare (· ≠ ·)
  | "-lt" => compare (· < ·)
  | "-le" => compare (· ≤ ·)
  | "-gt" => compare (· > ·)
  | "-ge" => compare (· ≥ ·)
  | "-nt" => return times fun a b => b < a
  | "-ot" => return times fun a b => a < b
  | "-ef" =>
    return (setting.number? left).isSome && setting.number? left = setting.number? right
  | _ => return false

/-- The next argument, which an operator needs. -/
def needed (operator : List Char) : Step (List Char) := do
  let place ← getModify (· + 1)
  match ← argument? (place + 1) with
  | some s => return s
  | none => throw (operator ++ ": argument expected".toList)

mutual

/-- Conditions joined by `-o`, the first of which begins with `kind`. -/
def disjunction (fuel : Nat) (kind : Option Kind) : Step Bool := do
  match fuel with
  | 0 => return false
  | fuel + 1 =>
    let left ← conjunction fuel kind
    if (← operator? ((← get) + 1)) = some .disjunction then
      modify (· + 2)
      let right ← disjunction fuel (← operator? (← get))
      return left || right
    return left

/-- Conditions joined by `-a`. -/
def conjunction (fuel : Nat) (kind : Option Kind) : Step Bool := do
  match fuel with
  | 0 => return false
  | fuel + 1 =>
    let left ← negation fuel kind
    if (← operator? ((← get) + 1)) = some .conjunction then
      modify (· + 2)
      let right ← conjunction fuel (← operator? (← get))
      return left && right
    return left

/-- A condition after signs for not. -/
def negation (fuel : Nat) (kind : Option Kind) : Step Bool := do
  match fuel with
  | 0 => return false
  | fuel + 1 =>
    if kind ≠ some .negation then return ← primary fuel kind
    let next := (← get) + 1
    if (← argument? next).isNone then return true
    let kind ← operator? next
    set next
    return !(← negation fuel kind)

/-- A single condition. -/
def primary (fuel : Nat) (kind : Option Kind) : Step Bool := do
  match fuel with
  | 0 => return false
  | fuel + 1 =>
    match ← argument? (← get) with
    | none => return false
    | some s =>
      if kind = some .opening then
        modify (· + 1)
        let inside ← operator? (← get)
        if inside = some .closing then return false
        let value ← disjunction fuel inside
        modify (· + 1)
        if (← operator? (← get)) ≠ some .closing then throw "closing paren expected".toList
        return value
      if kind = some .unary then
        let operand ← needed s
        return unaryValue (← read) s operand
      if (← operator? ((← get) + 1)) = some .binary then
        modify (· + 1)
        let operator := (← argument? (← get)).getD []
        let right ← needed operator
        return ← binaryValue operator s right
      return !s.isEmpty

end

/-- The value of a condition that starts at the first argument; `kind` is what it begins with. -/
def complete (kind : Option Kind) : Step Bool := do
  let value ← disjunction (4 * (← read).arguments.size + 8) kind
  let place ← get
  match ← argument? place, ← argument? (place + 1) with
  | some s, some _ => throw (s ++ ": unexpected operator".toList)
  | _, _ => return value

/-- The value of the condition that the arguments make up. -/
def evaluate (kernel : Kernel) (descriptors : Descriptors) (fuel : Nat)
    (arguments : List (List Char)) : Except Fault Bool :=
  match fuel with
  | 0 => .ok false
  | fuel + 1 =>
    let start (arguments : List (List Char)) (isOperand : Bool) : Except Fault Bool :=
      let step : Step Bool := do
        let kind ← if isOperand then pure none else operator? 0
        complete kind
      match (step.run ⟨kernel, descriptors, arguments.toArray⟩).run 0 with
      | .ok value _ => .ok value
      | .error fault _ => .error fault
    let count := arguments.length
    if arguments.isEmpty then .ok false
    else if count = 3 && (arguments[1]?.bind kind?) = some .binary then start arguments true
    else if (count = 3 || count = 4) && arguments.head? = some ['(']
        && arguments.getLast? = some [')'] then start (arguments.drop 1).dropLast false
    else if (count = 3 || count = 4) && arguments.head? = some ['!'] then
      (evaluate kernel descriptors fuel arguments.tail).map not
    else start arguments false

end CheckedBuild.Shell.Test
