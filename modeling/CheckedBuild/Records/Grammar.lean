import CheckedBuild.Records.Syntax
import CheckedBuild.Records.Token

/-!
# Grammar of the language for records

Expressions are read by levels of precedence: choices, disjunctions, conjunctions, memberships,
matched, comparisons, joined texts, sums, products, signs, powers, steps and operands. What
follows `print` may not hold a comparison for greater, which redirects there.
-/

namespace CheckedBuild.Records

/-- What a name stands for. -/
inductive Kind where
  | variable
  | table
  | function
deriving DecidableEq

/-- The kind as messages name it. -/
def Kind.shown : Kind → String
  | .variable => "variable"
  | .table => "array"
  | .function => "function"

/-- What a statement is a part of. -/
inductive Role where
  /-- A rule for records. -/
  | rule
  /-- A rule for the beginning or the end. -/
  | special
  | function
deriving DecidableEq

/-- What a parser has left, and what it knows. -/
structure Parsing where
  rest : List Placed
  /-- What was found to be wrong so far, the last fault first. -/
  faults : List Fault := []
  role : Role := .rule
  /-- How many loops the parser is inside of. -/
  loops : Nat := 0
  /-- The names that have been used, and those of the tables that always exist. -/
  kinds : List (List Char × Kind) := [("ENVIRON".toList, .table), ("ARGV".toList, .table)]
  /-- The parameters of the function, with what they have been used as. -/
  parameters : List (List Char × Option Kind) := []
  /-- The functions that are there, with the numbers of their parameters. -/
  functions : List (List Char × Nat) := []
  /-- The functions that are called, the last call first. -/
  calls : List (List Char) := []

/-- Steps of a parser, which moves along the tokens. -/
abbrev Parser := StateT Parsing (Except (List Fault))

/-- Where the parser is inside of an expression. -/
structure Place where
  /-- In a list that is printed, where the greater sign redirects. -/
  printing : Bool := false

/-- The next token. -/
def peek : Parser Token := return ((← get).rest.head?.map Placed.token).getD .ending

/-- The token after the next one. -/
def peekSecond : Parser Token := return ((← get).rest[1]?.map Placed.token).getD .ending

/-- The line of the next token. -/
def lineHere : Parser Nat := return ((← get).rest.head?.map Placed.line).getD 0

/-- Puts a fault on record. -/
def blameAt (line : Nat) (reason : List Char) : Parser Unit :=
  modify fun parsing => { parsing with faults := ⟨line, reason, false⟩ :: parsing.faults }

/-- Moves on by a token; the ending stays. -/
def advance : Parser Unit :=
  modify fun parsing =>
    match parsing.rest with
    | placed :: next :: rest =>
      { parsing with
        rest := next :: rest, faults := placed.faults.reverse ++ parsing.faults }
    | _ => parsing

/-- Whether the next token is a sign. -/
def isAt (sign : String) : Parser Bool := do
  match ← peek with
  | .sign s => return s = sign
  | _ => return false

/-- Whether the next token is a word of the language. -/
def isAtWord (word : String) : Parser Bool := do
  match ← peek with
  | .keyword s => return s = word
  | _ => return false

/-- The token as messages name it. -/
def Token.shown : Token → List Char
  | .number _ s => s
  | .text s => '"' :: s ++ ['"']
  | .pattern s => '/' :: s ++ ['/']
  | .name s | .callName s => s
  | .builtin s | .keyword s | .sign s => s.toList
  | .lineEnd => "end of line".toList
  | .ending => "end of file".toList
  | .broken _ => []

/-- Whether a token ends a statement, so that parentheses cannot be open there. -/
def Token.endsStatement : Token → Bool
  | .lineEnd | .ending => true
  | .sign s => s = ";" || s = "\x7d"
  | _ => false

/-- What is wrong if a token stands where it cannot stand. -/
def Placed.fault (placed : Placed) : Fault :=
  match placed.token with
  | .broken fault => fault
  | token =>
    let reason :=
      if token.endsStatement && 0 < placed.parens then "missing ) near "
      else if token matches .ending && 0 < placed.braces then "missing \x7d near "
      else "syntax error at or near "
    ⟨placed.line, reason.toList ++ token.shown, false⟩

/-- Ends the parser at the next token. -/
def failHere {α : Type} : Parser α := do
  let parsing ← get
  match parsing.rest with
  | placed :: _ =>
    throw (parsing.faults.reverse ++ placed.faults ++ [placed.fault])
  | [] => throw parsing.faults.reverse

/-- Takes a sign if it comes next. -/
def accept (sign : String) : Parser Bool := do
  if ← isAt sign then
    advance
    return true
  return false

/-- Takes a sign that has to come next. -/
def expect (sign : String) : Parser Unit := do
  if !(← accept sign) then failHere

/-- Takes a token as long as it is of a kind. -/
def skipWhile (isSkipped : Token → Bool) (fuel : Nat) : Parser Unit := do
  match fuel with
  | 0 => return
  | fuel + 1 =>
    if isSkipped (← peek) then
      advance
      skipWhile isSkipped fuel

/-- Takes line ends. -/
def skipLines : Parser Unit := do
  skipWhile (· matches .lineEnd) (← get).rest.length

/-- Takes what separates statements. -/
def skipSeparators : Parser Unit := do
  let separates : Token → Bool
    | .lineEnd => true
    | .sign s => s = ";"
    | _ => false
  skipWhile separates (← get).rest.length

/-- What a name stands for, if it has been used. -/
def kindOf? (name : List Char) : Parser (Option Kind) := do
  let parsing ← get
  match parsing.parameters.lookup name with
  | some kind? => return kind?
  | none => return parsing.kinds.lookup name

/-- Puts on record that a name is used as something else than before. -/
def use (name : List Char) (kind : Kind) : Parser Unit := do
  let parsing ← get
  let line ← lineHere
  match parsing.parameters.lookup name with
  | some none =>
    let parameters := parsing.parameters.map fun entry =>
      if entry.1 = name then (name, some kind) else entry
    set { parsing with parameters }
  | some (some known) =>
    if known ≠ kind then
      blameAt line (("illegal reference to local " ++ known.shown ++ " ").toList ++ name)
  | none =>
    match parsing.kinds.lookup name with
    | none => set { parsing with kinds := (name, kind) :: parsing.kinds }
    | some known =>
      if known ≠ kind then
        blameAt line (("illegal reference to " ++ known.shown ++ " ").toList ++ name)

/-- The operator of an assignment. -/
def assignment? (sign : String) : Option (Option Arithmetic) :=
  match sign with
  | "=" => some none
  | "+=" => some (some .add)
  | "-=" => some (some .subtract)
  | "*=" => some (some .multiply)
  | "/=" => some (some .divide)
  | "%=" => some (some .remainder)
  | "^=" => some (some .power)
  | _ => none

/-- The comparison that a sign means. -/
def comparison? (place : Place) (sign : String) : Option Comparison :=
  match sign with
  | "<" => some .less
  | "<=" => some .lessOrEqual
  | "==" => some .equal
  | "!=" => some .different
  | ">" => if place.printing then none else some .greater
  | ">=" => some .greaterOrEqual
  | _ => none

/-- Whether an expression can be assigned to. -/
def isTarget : Expression → Bool
  | .name _ | .field _ | .element .. => true
  | _ => false

/-- Whether a token can begin an operand that is joined to the one before it. -/
def beginsOperand : Token → Bool
  | .number .. | .text _ | .name _ | .callName _ | .builtin _ => true
  | .sign s => ["(", "$", "!", "-", "+", "++", "--"].contains s
  | _ => false

/-- How many arguments a function of the language takes at least and at most. -/
def argumentCounts (name : String) : Nat × Option Nat :=
  match name with
  | "substr" => (2, some 3)
  | "index" | "atan2" => (2, some 2)
  | "sprintf" => (1, none)
  | "rand" | "systime" => (0, some 0)
  | "srand" | "fflush" => (0, some 1)
  | "mktime" => (1, some 2)
  | "strftime" => (0, some 3)
  | _ => (1, some 1)

mutual

/-- An expression. -/
def expression (fuel : Nat) (place : Place) : Parser Expression := do
  match fuel with
  | 0 => failHere
  | fuel + 1 =>
    let left ← choice fuel place
    match ← peek with
    | .sign s =>
      match assignment? s with
      | some operator =>
        if !isTarget left then failHere
        advance
        skipLines
        return .assign operator left (← expression fuel place)
      | none => return left
    | _ => return left

/-- A choice between two values. -/
def choice (fuel : Nat) (place : Place) : Parser Expression := do
  match fuel with
  | 0 => failHere
  | fuel + 1 =>
    let condition ← disjunction fuel place
    if !(← accept "?") then return condition
    skipLines
    let yes ← expression fuel place
    skipLines
    expect ":"
    skipLines
    return .choose condition yes (← expression fuel place)

/-- Conditions of which one has to hold. -/
def disjunction (fuel : Nat) (place : Place) : Parser Expression := do
  match fuel with
  | 0 => failHere
  | fuel + 1 =>
    let left ← conjunction fuel place
    if !(← accept "||") then return left
    skipLines
    return .either left (← disjunction fuel place)

/-- Conditions that all have to hold. -/
def conjunction (fuel : Nat) (place : Place) : Parser Expression := do
  match fuel with
  | 0 => failHere
  | fuel + 1 =>
    let left ← membership fuel place
    if !(← accept "&&") then return left
    skipLines
    return .both left (← conjunction fuel place)

/-- Whether something is in a table. -/
def membership (fuel : Nat) (place : Place) : Parser Expression := do
  match fuel with
  | 0 => failHere
  | fuel + 1 =>
    let left ← matching fuel place
    if !(← isAtWord "in") then return left
    members fuel left

/-- The tables after an expression that something may be in. -/
def members (fuel : Nat) (left : Expression) : Parser Expression := do
  match fuel with
  | 0 => failHere
  | fuel + 1 =>
    if !(← isAtWord "in") then return left
    advance
    let indices := match left with
      | .group inside => inside
      | other => [other]
    match ← peek with
    | .name table =>
      use table .table
      advance
      members fuel (.contains table indices)
    | _ => failHere

/-- Whether a pattern matched. -/
def matching (fuel : Nat) (place : Place) : Parser Expression := do
  match fuel with
  | 0 => failHere
  | fuel + 1 =>
    let left ← comparing fuel place
    matched fuel place left

/-- The patterns after an expression. -/
def matched (fuel : Nat) (place : Place) (left : Expression) : Parser Expression := do
  match fuel with
  | 0 => failHere
  | fuel + 1 =>
    if ← accept "~" then
      matched fuel place (.isMatch false left (← comparing fuel place))
    else if ← accept "!~" then
      matched fuel place (.isMatch true left (← comparing fuel place))
    else return left

/-- A comparison; lines may also come out of a command here. -/
def comparing (fuel : Nat) (place : Place) : Parser Expression := do
  match fuel with
  | 0 => failHere
  | fuel + 1 =>
    let left ← piped fuel (← joining fuel place)
    match ← peek with
    | .sign s =>
      match comparison? place s with
      | some operator =>
        advance
        return .compare operator left (← piped fuel (← joining fuel place))
      | none => return left
    | _ => return left

/-- Reads lines out of the command that an expression gives. -/
def piped (fuel : Nat) (left : Expression) : Parser Expression := do
  match fuel with
  | 0 => failHere
  | fuel + 1 =>
    match ← peek, ← peekSecond with
    | .sign "|", .keyword "getline" =>
      advance
      advance
      let target ← lineTarget fuel
      piped fuel (.readLine .command [left] target)
    | _, _ => return left

/-- Texts that are joined. -/
def joining (fuel : Nat) (place : Place) : Parser Expression := do
  match fuel with
  | 0 => failHere
  | fuel + 1 =>
    let left ← sum fuel
    joined fuel place left

/-- The texts that are joined to an expression. -/
def joined (fuel : Nat) (place : Place) (left : Expression) : Parser Expression := do
  match fuel with
  | 0 => failHere
  | fuel + 1 =>
    if beginsOperand (← peek) then joined fuel place (.join left (← sum fuel)) else return left

/-- A sum. -/
def sum (fuel : Nat) : Parser Expression := do
  match fuel with
  | 0 => failHere
  | fuel + 1 =>
    let left ← product fuel
    summands fuel left

/-- The numbers added to an expression. -/
def summands (fuel : Nat) (left : Expression) : Parser Expression := do
  match fuel with
  | 0 => failHere
  | fuel + 1 =>
    if ← accept "+" then summands fuel (.arithmetic .add left (← product fuel))
    else if ← accept "-" then summands fuel (.arithmetic .subtract left (← product fuel))
    else return left

/-- A product. -/
def product (fuel : Nat) : Parser Expression := do
  match fuel with
  | 0 => failHere
  | fuel + 1 =>
    let left ← signed fuel
    factors fuel left

/-- The factors after an expression. -/
def factors (fuel : Nat) (left : Expression) : Parser Expression := do
  match fuel with
  | 0 => failHere
  | fuel + 1 =>
    if ← accept "*" then factors fuel (.arithmetic .multiply left (← signed fuel))
    else if ← accept "/" then factors fuel (.arithmetic .divide left (← signed fuel))
    else if ← accept "%" then factors fuel (.arithmetic .remainder left (← signed fuel))
    else return left

/-- An expression after signs. -/
def signed (fuel : Nat) : Parser Expression := do
  match fuel with
  | 0 => failHere
  | fuel + 1 =>
    if ← accept "!" then return .not (← signed fuel)
    if ← accept "-" then return .negate (← signed fuel)
    if ← accept "+" then return .plus (← signed fuel)
    power fuel

/-- A power. -/
def power (fuel : Nat) : Parser Expression := do
  match fuel with
  | 0 => failHere
  | fuel + 1 =>
    let left ← stepped fuel
    if ← accept "^" then
      let right ← if ← accept "-" then
          pure (.negate (← power fuel))
        else power fuel
      return .arithmetic .power left right
    return left

/-- An operand that is stepped up or down. -/
def stepped (fuel : Nat) : Parser Expression := do
  match fuel with
  | 0 => failHere
  | fuel + 1 =>
    if ← accept "++" then return .step true 1 (← operand fuel)
    if ← accept "--" then return .step true (-1) (← operand fuel)
    let left ← operand fuel
    if !isTarget left then return left
    if ← accept "++" then return .step false 1 left
    if ← accept "--" then return .step false (-1) left
    return left

/-- The target of a line that is read, if one is named. -/
def lineTarget (fuel : Nat) : Parser (List Expression) := do
  match fuel with
  | 0 => failHere
  | fuel + 1 =>
    match ← peek with
    | .name _ | .sign "$" => return [← operand fuel]
    | _ => return []

/-- Expressions between parentheses. -/
def list (fuel : Nat) : Parser (List Expression) := do
  match fuel with
  | 0 => failHere
  | fuel + 1 =>
    if ← accept ")" then return []
    let first ← expression fuel {}
    if ← accept "," then
      skipLines
      return first :: (← list fuel)
    expect ")"
    return [first]

/-- The arguments of a function of the program. A name on its own may turn out to be a table. -/
def handedOver (fuel : Nat) : Parser (List Expression) := do
  match fuel with
  | 0 => failHere
  | fuel + 1 =>
    if ← accept ")" then return []
    let first ← match ← peek, ← peekSecond with
      | .name name, .sign s =>
        if s = "," || s = ")" then
          advance
          pure (Expression.name name)
        else expression fuel {}
      | _, _ => expression fuel {}
    if ← accept "," then
      skipLines
      return first :: (← handedOver fuel)
    expect ")"
    return [first]

/-- Arguments of which there have to be at least and at most so many. -/
def counted (fuel least most : Nat) : Parser (List Expression) := do
  match fuel with
  | 0 => failHere
  | fuel + 1 =>
    if least = 0 then
      if ← accept ")" then return []
    let first ← expression fuel {}
    if 1 < most then
      if ← accept "," then
        skipLines
        return first :: (← counted fuel (least - 1) (most - 1))
    if 1 < least then failHere
    expect ")"
    return [first]

/-- The arguments of a split: a text, a table, and what separates the parts. -/
def splitArguments (fuel : Nat) : Parser (List Expression) := do
  match fuel with
  | 0 => failHere
  | fuel + 1 =>
    let s ← expression fuel {}
    expect ","
    skipLines
    match ← peek with
    | .name table =>
      use table .table
      advance
      if ← accept ")" then return [s, .name table]
      expect ","
      skipLines
      let separator ← expression fuel {}
      expect ")"
      return [s, .name table, separator]
    | _ => failHere

/-- The arguments of a replacement, of which the last one has to be a target. -/
def replacementArguments (fuel : Nat) : Parser (List Expression) := do
  match fuel with
  | 0 => failHere
  | fuel + 1 =>
    let pattern ← expression fuel {}
    expect ","
    skipLines
    let replacement ← expression fuel {}
    if ← accept ")" then return [pattern, replacement]
    expect ","
    skipLines
    let target ← operand fuel
    if !isTarget target then failHere
    expect ")"
    return [pattern, replacement, target]

/-- The argument of a length, if there is one. A name on its own may turn out to be a table. -/
def measured (fuel : Nat) : Parser (List Expression) := do
  match fuel with
  | 0 => failHere
  | fuel + 1 =>
    match ← peek, ← peekSecond with
    | .name name, .sign ")" =>
      advance
      advance
      return [.name name]
    | _, _ => counted fuel 0 1

/-- The arguments of a function of the language. -/
def builtinArguments (fuel : Nat) (name : String) : Parser (List Expression) := do
  match fuel with
  | 0 => failHere
  | fuel + 1 =>
    match name with
    | "split" => splitArguments fuel
    | "sub" | "gsub" => replacementArguments fuel
    | "match" => counted fuel 2 2
    | "length" => measured fuel
    | name =>
      let arguments ← list fuel
      let (least, most) := argumentCounts name
      if arguments.length < least || most.any (· < arguments.length) then
        let line ← lineHere
        blameAt line ("wrong number of arguments in call to " ++ name).toList
      return arguments

/-- The indices of an element. -/
def indices (fuel : Nat) : Parser (List Expression) := do
  match fuel with
  | 0 => failHere
  | fuel + 1 =>
    let first ← expression fuel {}
    if ← accept "," then
      skipLines
      return first :: (← indices fuel)
    expect "]"
    return [first]

/-- An operand. -/
def operand (fuel : Nat) : Parser Expression := do
  match fuel with
  | 0 => failHere
  | fuel + 1 =>
    match ← peek with
    | .number x _ =>
      advance
      return .number x
    | .text s =>
      advance
      return .text s
    | .pattern s =>
      advance
      return .pattern s
    | .name name =>
      if (← peekSecond) matches .sign "[" then
        use name .table
        advance
        advance
        return .element name (← indices fuel)
      use name .variable
      advance
      return .name name
    | .callName name =>
      if (← kindOf? name) = some .variable then
        advance
        return .name name
      use name .function
      let line ← lineHere
      modify fun parsing => { parsing with calls := name :: parsing.calls }
      advance
      expect "("
      let arguments ← handedOver fuel
      if ((← get).functions.lookup name).any (· < arguments.length) then
        blameAt line ("too many arguments in call to ".toList ++ name)
      return .call name arguments
    | .builtin name =>
      advance
      if ← accept "(" then return .builtin name (← builtinArguments fuel name)
      if name ≠ "length" then failHere
      return .builtin name []
    | .keyword "getline" =>
      advance
      let target ← lineTarget fuel
      if ← accept "<" then return .readLine .file [← stepped fuel] target
      return .readLine .input [] target
    | .sign "$" =>
      advance
      return .field (← stepped fuel)
    | .sign "-" =>
      advance
      return .negate (← operand fuel)
    | .sign "+" =>
      advance
      return .plus (← operand fuel)
    | .sign "!" =>
      advance
      return .not (← operand fuel)
    | .sign "(" =>
      advance
      match ← list fuel with
      | [] => failHere
      | inside => return .group inside
    | _ => failHere

end

/-- Expressions up to the end of a statement. -/
def arguments (fuel : Nat) (place : Place) : Parser (List Expression) := do
  match fuel with
  | 0 => return []
  | fuel + 1 =>
    let first ← expression fuel place
    if ← accept "," then
      skipLines
      return first :: (← arguments fuel place)
    return [first]

/-- Whether a statement ends here. -/
def isAtEnd : Parser Bool := do
  return (← peek).endsStatement

/-- What a statement prints, and where to. -/
def printed (fuel : Nat) : Parser (List Expression × Target) := do
  let redirects : Parser Bool := do
    return (← isAt ">") || (← isAt ">>") || (← isAt "|")
  let isVoid := match ← peek, ← peekSecond with
    | .sign "(", .sign ")" => true
    | _, _ => false
  if isVoid then
    advance
    advance
  let given ← if isVoid || (← isAtEnd) || (← redirects) then pure []
    else arguments fuel { printing := true }
  -- parentheses around all that is printed are no part of it
  let given := match given with
    | [.group inside] => inside
    | given => given
  if ← accept ">" then return (given, .file (← choice fuel { printing := true }) false)
  if ← accept ">>" then return (given, .file (← choice fuel { printing := true }) true)
  if ← accept "|" then return (given, .command (← choice fuel { printing := true }))
  return (given, .output)

/-- Takes the end of a statement. -/
def endStatement : Parser Unit := do
  match ← peek with
  | .ending | .sign "\x7d" => return
  | .lineEnd | .sign ";" => skipSeparators
  | _ => failHere

/-- Takes the body of a loop. -/
def inLoop {α : Type} (body : Parser α) : Parser α := do
  modify fun parsing => { parsing with loops := parsing.loops + 1 }
  let result ← body
  modify fun parsing => { parsing with loops := parsing.loops - 1 }
  return result

mutual

/-- A statement with what separates it from the next one. -/
def statement (fuel : Nat) : Parser Statement := do
  match fuel with
  | 0 => failHere
  | fuel + 1 =>
    match ← peek with
    | .sign "\x7b" =>
      let inside ← block fuel
      skipSeparators
      return inside
    | .sign ";" =>
      advance
      skipLines
      return .block []
    | .sign "\x7d" => return .block []
    | .keyword "if" =>
      advance
      expect "("
      let condition ← expression fuel {}
      expect ")"
      skipLines
      let yes ← statement fuel
      if ← isAtWord "else" then
        advance
        skipLines
        return .branch condition yes (← statement fuel)
      return .branch condition yes (.block [])
    | .keyword "while" =>
      advance
      expect "("
      let condition ← expression fuel {}
      expect ")"
      if ← accept ";" then
        skipLines
        return .whileLoop condition (.block [])
      skipLines
      return .whileLoop condition (← inLoop (statement fuel))
    | .keyword "do" =>
      advance
      skipLines
      let body ← inLoop (statement fuel)
      skipSeparators
      if !(← isAtWord "while") then failHere
      advance
      expect "("
      let condition ← expression fuel {}
      expect ")"
      endStatement
      return .doLoop body condition
    | .keyword "for" =>
      advance
      expect "("
      loop fuel
    | _ =>
      let statement ← simple fuel
      endStatement
      return statement

/-- A loop after its opening parenthesis. -/
def loop (fuel : Nat) : Parser Statement := do
  match fuel with
  | 0 => failHere
  | fuel + 1 =>
    let body : Parser Statement := do
      if ← accept ";" then
        skipLines
        return .block []
      skipLines
      inLoop (statement fuel)
    let ahead := (← get).rest.take 4
    match ahead.map Placed.token with
    | [.name name, .keyword "in", .name table, .sign ")"] =>
      use name .variable
      use table .table
      ahead.forM fun _ => advance
      return .forEach name table (← body)
    | _ =>
      let part : Parser Statement := do
        if (← isAt ";") || (← isAt ")") then return .block [] else simple fuel
      let first ← part
      expect ";"
      skipLines
      let condition ← if ← isAt ";" then pure none else some <$> expression fuel {}
      expect ";"
      skipLines
      let later ← part
      expect ")"
      return .forLoop first condition later (← body)

/-- A statement without its end. -/
def simple (fuel : Nat) : Parser Statement := do
  match fuel with
  | 0 => failHere
  | fuel + 1 =>
    let value : Parser (Option Expression) := do
      if ← isAtEnd then return none else return some (← expression fuel {})
    match ← peek with
    | .keyword "print" =>
      advance
      let (given, target) ← printed fuel
      return .print given target
    | .keyword "printf" =>
      let line ← lineHere
      advance
      let (given, target) ← printed fuel
      if given.isEmpty then blameAt line "no arguments in call to printf".toList
      return .printFormat given target
    | .keyword "delete" =>
      advance
      match ← peek with
      | .name table =>
        use table .table
        advance
        if ← accept "[" then return .delete table (← indices fuel)
        return .delete table []
      | _ => failHere
    | .keyword "next" =>
      let line ← lineHere
      if (← get).role ≠ .rule then blameAt line "improper use of next".toList
      advance
      return .next
    | .keyword "nextfile" =>
      let line ← lineHere
      if (← get).role ≠ .rule then blameAt line "improper use of nextfile".toList
      advance
      return .nextFile
    | .keyword "exit" =>
      advance
      return .exit (← value)
    | .keyword "return" =>
      let line ← lineHere
      if (← get).role ≠ .function then blameAt line "return outside function body".toList
      advance
      return .giveBack (← value)
    | .keyword "break" =>
      let line ← lineHere
      if (← get).loops = 0 then blameAt line "break statement outside of loop".toList
      advance
      return .leave
    | .keyword "continue" =>
      let line ← lineHere
      if (← get).loops = 0 then blameAt line "continue statement outside of loop".toList
      advance
      return .goOn
    | _ =>
      match ← expression fuel {} with
      | .group (_ :: _ :: _) => failHere
      | expression => return .expression expression

/-- Statements between braces. -/
def block (fuel : Nat) : Parser Statement := do
  match fuel with
  | 0 => failHere
  | fuel + 1 =>
    expect "\x7b"
    skipSeparators
    return .block (← statements fuel)

/-- Statements up to a closing brace. -/
def statements (fuel : Nat) : Parser (List Statement) := do
  match fuel with
  | 0 => failHere
  | fuel + 1 =>
    if ← accept "\x7d" then return []
    let first ← statement fuel
    return first :: (← statements fuel)

end

/-- The parameters of a function, after the opening parenthesis. -/
def parameters (fuel : Nat) (function : List Char) (before : List (List Char)) :
    Parser (List (List Char)) := do
  match fuel with
  | 0 => return before
  | fuel + 1 =>
    match ← peek with
    | .name name =>
      let line ← lineHere
      if before.contains name then
        blameAt line (name ++ " is duplicated in argument list".toList)
      if name = function then
        blameAt line "function parameter cannot be the function".toList
      advance
      if ← accept "," then
        skipLines
        return ← parameters fuel function (before ++ [name])
      expect ")"
      return before ++ [name]
    | _ =>
      expect ")"
      return before

/-- Takes something as a part of a role. -/
def inRole {α : Type} (role : Role) (inside : Parser α) : Parser α := do
  modify fun parsing => { parsing with role }
  let result ← inside
  modify fun parsing => { parsing with role := .rule }
  return result

/-- Takes a rule or a function and adds it to a program. -/
def item (fuel : Nat) (program : Program) : Parser Program := do
  let action : Parser (Option Statement) := do
    if ← isAt "\x7b" then return some (← block fuel) else return none
  let withRule (selection : Selection) (action : Option Statement) : Program :=
    { program with rules := program.rules ++ [⟨selection, action⟩] }
  match ← peek with
  | .keyword "function" =>
    advance
    let name ← match ← peek with
      | .name name | .callName name => pure name
      | _ => failHere
    use name .function
    let line ← lineHere
    if ((← get).functions.lookup name).isSome then
      blameAt line ("redefinition of ".toList ++ name)
    advance
    expect "("
    let names ← parameters fuel name []
    modify fun parsing =>
      { parsing with
        parameters := names.map fun name => (name, none)
        functions := (name, names.length) :: parsing.functions }
    skipLines
    let body ← inRole .function (block fuel)
    modify fun parsing => { parsing with parameters := [] }
    return { program with functions := program.functions ++ [⟨name, names, body⟩] }
  | .keyword "BEGIN" =>
    advance
    return withRule .first (some (← inRole .special (block fuel)))
  | .keyword "END" =>
    advance
    return withRule .last (some (← inRole .special (block fuel)))
  | .sign "\x7b" => return withRule .always (← action)
  | _ =>
    let start ← expression fuel {}
    if ← accept "," then
      skipLines
      let stop ← expression fuel {}
      return withRule (.range start stop) (← action)
    return withRule (.condition start) (← action)

/-- The rules and functions that are left. -/
def items (fuel : Nat) (program : Program) : Parser Program := do
  match fuel with
  | 0 => return program
  | fuel + 1 =>
    skipSeparators
    if (← peek) matches .ending then return program
    let program ← item (fuel + 1000) program
    items fuel program

/-- The faults that show at the end: functions that are called but are not there. -/
def Parsing.missing (parsing : Parsing) : List Fault :=
  let line := (parsing.rest.head?.map Placed.line).getD 0
  let names := parsing.calls.reverse.eraseDups.filter fun name =>
    (parsing.functions.lookup name).isNone
  names.reverse.map fun name =>
    ⟨line, "function ".toList ++ name ++ " never defined".toList, false⟩

/-- The program that a text spells, or what is wrong with it; some variables have got values
already. -/
def programOf (assigned : List (List Char)) (s : List Char) : Except (List Fault) Program := do
  let tokens := tokensOf (s.length + 1) {} s
  let fuel := 20 * tokens.length + 100
  let start : Parsing := { rest := tokens }
  let kinds := assigned.map fun name => (name, Kind.variable)
  let (program, parsing) ← (items fuel {}).run { start with kinds := start.kinds ++ kinds }
  let marks := (parsing.rest.head?.map Placed.faults).getD []
  match parsing.faults.reverse ++ marks ++ parsing.missing with
  | [] => return program
  | faults => throw faults

end CheckedBuild.Records
