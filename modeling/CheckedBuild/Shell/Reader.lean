import CheckedBuild.Shell.Syntax

/-!
# Reading the words of a script

A script is read character by character. A backslash before a line feed joins two lines, except
between single quotes. What a character means depends on the place where it stands: outside of
quotes, in double quotes, in the braces of an expansion, in an arithmetic expression or in a
document. Expansions nest, and a script inside a word is read by the reader of commands, which is
a parameter here.
-/

namespace CheckedBuild.Shell

/-- Lexical units. The texts of words, keywords and redirections are kept apart. -/
inductive Token where
  | endOfFile
  | newline
  | semicolon
  | ampersand
  | andIf
  | orIf
  | pipe
  | openParenthesis
  | closeParenthesis
  | endOfClause
  | redirection
  | word
  | keyword (name : String)
deriving DecidableEq, Repr

/-- A unit as messages name it. -/
def Token.spelling : Token → String
  | .endOfFile => "end of file"
  | .newline => "newline"
  | .semicolon => "\";\""
  | .ampersand => "\"&\""
  | .andIf => "\"&&\""
  | .orIf => "\"||\""
  | .pipe => "\"|\""
  | .openParenthesis => "\"(\""
  | .closeParenthesis => "\")\""
  | .endOfClause => "\";;\""
  | .redirection => "redirection"
  | .word => "word"
  | .keyword name => "\"" ++ name ++ "\""

/-- A document that is announced but not yet read. -/
structure Announced where
  index : Nat
  mark : List Char
  /-- Its text is taken as it stands. -/
  literal : Bool
  /-- Tabs at the beginning of its lines are dropped. -/
  strips : Bool

/-- The state of the reader. -/
structure Reader where
  input : List Char
  /-- More than the steps that reading the input takes. -/
  fuel : Nat := 8 * input.length + 64
  line : Nat := 1
  /-- The last unit, and whether it is to be read again. -/
  token : Token := .newline
  isBack : Bool := false
  word : Word := []
  descriptor : Nat := 0
  target : Target := .read
  /-- Whether the document of a redirection loses the tabs at the beginning of its lines. -/
  strips : Bool := false
  announced : List Announced := []
  documents : Array Word := #[]

/-- A fault in a script, and the line where it was found. -/
structure Fault where
  line : Nat
  message : String

/-- Reading a script. -/
abbrev Reading := StateT Reader (Except Fault)

namespace Reading

/-- Stops with a fault. -/
def fail {α : Type} (message : String) : Reading α := do
  throw ⟨(← get).line, "Syntax error: " ++ message⟩

/-- Takes the next character. -/
def next : Reading (Option Char) :=
  modifyGet fun reader =>
    match reader.input with
    | [] => (none, reader)
    | c :: rest => (some c, { reader with input := rest })

/-- The input after the joints of lines at its start, and how many there are. -/
def afterJoints (count : Nat) : List Char → Nat × List Char
  | '\\' :: '\n' :: rest => afterJoints (count + 1) rest
  | s => (count, s)

/-- Takes the next character of joined lines. -/
def nextJoined : Reading (Option Char) :=
  modifyGet fun reader =>
    match reader.input with
    | '\\' :: '\n' :: rest =>
      let (count, rest) := afterJoints 1 rest
      (rest.head?, { reader with input := rest.tail, line := reader.line + count })
    | [] => (none, reader)
    | c :: rest => (some c, { reader with input := rest })

/-- Puts a character back. -/
def unread : Option Char → Reading Unit
  | some c => modify fun reader => { reader with input := c :: reader.input }
  | none => pure ()

/-- Counts the line feeds of a text. -/
def countLines (s : List Char) : Reading Unit :=
  modify fun reader => { reader with line := reader.line + s.count '\n' }

/-- Takes characters as long as they satisfy a condition, after one that has been taken. -/
def takeName (fuel : Nat) (p : Char → Bool) (reversed : List Char) :
    Reading (List Char × Option Char) := do
  match fuel with
  | 0 => return (reversed.reverse, none)
  | fuel + 1 =>
    match ← nextJoined with
    | some c => if p c then takeName fuel p (c :: reversed) else return (reversed.reverse, some c)
    | none => return (reversed.reverse, none)

end Reading

/-- Where a character stands. -/
inductive Place where
  | bare
  /-- In the mark of a document, where nothing is expanded. -/
  | delimiter
  /-- Between double quotes, which may be inside of braces. -/
  | double (inBraces : Bool)
  /-- In braces outside of double quotes. -/
  | braces
  /-- In braces inside of double quotes or of a document; `paired` tells that an odd number of
  quotation marks came before. -/
  | quotedBraces (paired inDocument : Bool)
  /-- In an arithmetic expression, inside of so many parentheses. -/
  | sum (depth : Nat)
  /-- In a document that ends with a mark. -/
  | document (mark : List Char) (strips : Bool)
deriving DecidableEq, Repr

namespace Place

/-- Whether the characters count as quoted. -/
def quotes : Place → Bool
  | .bare | .delimiter | .braces => false
  | _ => true

/-- Whether a backslash quotes the character after it and vanishes. -/
def escapes (place : Place) (c : Char) : Bool :=
  match place with
  | .bare | .delimiter | .braces => true
  | .double inBraces => "\\\x60$\"".toList.contains c || (inBraces && c = '}')
  | .quotedBraces .. => "\\\x60$\"\x7d".toList.contains c
  | .sum _ => "\\\x60$\"".toList.contains c
  | .document .. => "\\\x60$".toList.contains c

/-- What the end of the script means; a word and a document may end there. -/
def fault? : Place → Option String
  | .bare | .delimiter | .document .. => none
  | .double _ | .quotedBraces _ false => some "Unterminated quoted string"
  | .braces | .quotedBraces _ true => some "Missing '\x7d'"
  | .sum _ => some "Missing '))'"

/-- The place of the word in the braces of an expansion. -/
def insideBraces (place : Place) (trims : Bool) : Place :=
  if trims then .braces
  else
    match place with
    | .bare | .braces => .braces
    | .document .. | .quotedBraces _ true => .quotedBraces false true
    | _ => .quotedBraces false false

end Place

/-- A character added to parts that are collected last first, with their texts reversed. -/
def addCharacter (quoted : Bool) (c : Char) : List Part → List Part
  | .text other s :: rest =>
    if other = quoted then .text quoted (c :: s) :: rest
    else .text quoted [c] :: .text other s :: rest
  | parts => .text quoted [c] :: parts

/-- The parts that were collected. -/
def collected (parts : List Part) : Word :=
  parts.foldl (fun word part =>
    match part with
    | .text quoted s => .text quoted s.reverse :: word
    | part => part :: word) []

/-- A word as parts that are collected last first, with their texts reversed. -/
def reopened (word : Word) : List Part :=
  word.foldl (fun parts part =>
    match part with
    | .text quoted s => .text quoted s.reverse :: parts
    | part => part :: parts) []

/-- Parameters of one character that is no digit. -/
def isSpecialParameter (c : Char) : Bool := "@*#?-$!".toList.contains c

/-- Whether a character at the end of a bare word belongs to what follows. -/
def endsWord (c : Char) : Bool := " \t\n|&;()<>".toList.contains c

namespace Reading

/-- Reads what stands between an expansion's name and its word; `c` comes after the name. -/
def readOperation (c : Option Char) : Reading Operation := do
  let rest (colon : Bool) : Option Char → Operation
    | some '}' => .value
    | some '-' => .fallback colon
    | some '+' => .alternative colon
    | some '?' => .demand colon
    | some '=' => .assign colon
    | _ => .bad
  let twice (mark : Char) : Reading Bool := do
    let c ← nextJoined
    if c = some mark then return true
    unread c
    return false
  match c with
  | some ':' =>
    let c ← nextJoined
    if c = some '}' then return .bad
    return rest true c
  | some '%' => return .trimBack (← twice '%')
  | some '#' => return .trimFront (← twice '#')
  | c => return rest false c

/-- How far an expansion in braces has been read. -/
structure Opening where
  name : List Char
  operation : Operation

/-- Reads a name, a number or a special parameter; `c` is its first character. In braces a number
may have several digits. The result holds the character that follows. -/
def readName (fuel : Nat) (inBraces : Bool) (c : Char) : Reading (Option (List Char) × Option Char) :=
  if beginsName c then do
    let (name, after) ← takeName fuel continuesName [c]
    return (some name, after)
  else if c.isDigit then
    if inBraces then do
      let (name, after) ← takeName fuel Char.isDigit [c]
      return (some name, after)
    else return (some [c], ← nextJoined)
  else if isSpecialParameter c then return (some [c], ← nextJoined)
  else return (none, some c)

/-- Reads the name and the operation of an expansion after its brace. -/
def readOpening (fuel : Nat) : Reading Opening := do
  match ← nextJoined with
  | none => return ⟨[], .bad⟩
  | some '#' =>
    let c ← nextJoined
    match c with
    | some first =>
      if continuesName first then
        let (name, after) ← readName fuel true first
        unread after
        return ⟨name.getD [], if after = some '}' then .length else .bad⟩
      else
        let after ← nextJoined
        unread after
        if first ≠ '}' && after = some '}' then
          return ⟨[first], if isSpecialParameter first then .length else .bad⟩
        return ⟨['#'], ← readOperation c⟩
    | none => return ⟨['#'], .bad⟩
  | some first =>
    match ← readName fuel true first with
    | (some name, after) => return ⟨name, ← readOperation after⟩
    | (none, after) =>
      unread after
      return ⟨[], .bad⟩

/-- The script between backquotes: a backslash before one of some characters vanishes. -/
def readBackquoted (fuel : Nat) (quoted : Bool) (reversed : List Char) : Reading (List Char) := do
  match fuel with
  | 0 => return reversed.reverse
  | fuel + 1 =>
    match ← nextJoined with
    | none => fail "EOF in backquote substitution"
    | some '\x60' => return reversed.reverse
    | some '\\' =>
      match ← next with
      | none => fail "EOF in backquote substitution"
      | some c =>
        if "\\\x60$".toList.contains c || (quoted && c = '"') then
          readBackquoted fuel quoted (c :: reversed)
        else readBackquoted fuel quoted (c :: '\\' :: reversed)
    | some c =>
      countLines [c]
      readBackquoted fuel quoted (c :: reversed)

/-- Reads a text as a script of its own, whose lines count from one. -/
def inText (script : Reading Script) (text : List Char) : Reading Script := do
  let outside ← get
  set { outside with input := text, line := 1, announced := [] }
  let found ← script
  modify fun reader => { outside with documents := reader.documents }
  return found

/-- Reads a script in the middle of a word. -/
def inWord (script : Reading Script) : Reading Script := do
  let outside ← get
  set { outside with announced := [] }
  let found ← script
  modify fun reader => { reader with announced := outside.announced }
  return found

/-- Takes the mark that ends a document, if it stands alone on the next line. -/
def takeMark (mark : List Char) (strips : Bool) : Reading Bool := do
  if strips then
    modify fun reader => { reader with input := reader.input.dropWhile (· = '\t') }
  let reader ← get
  if !mark.isPrefixOf reader.input then return false
  match reader.input.drop mark.length with
  | [] =>
    set { reader with input := [], line := reader.line + 1 }
    return true
  | '\n' :: rest =>
    set { reader with input := rest, line := reader.line + 1 }
    return true
  | _ => return false

/-- How scripts inside of words are read. -/
structure Nested where
  /-- Up to a closing parenthesis. -/
  inParentheses : Reading Script
  /-- Up to the end of the input. -/
  toEnd : Reading Script

/-- Reads the rest of a text between single quotes. -/
def readLiteral : Reading (List Char) := do
  let reader ← get
  let text := reader.input.takeWhile (· ≠ '\'')
  set { reader with input := reader.input.drop text.length }
  countLines text
  if (← next).isNone then fail "Unterminated quoted string"
  return text

mutual

/-- Reads the parts of a word up to the end of its place; `found` holds those before. -/
def readParts (nested : Nested) (fuel : Nat) (place : Place) (found : List Part) :
    Reading Word := do
  match fuel with
  | 0 => fail "Input too long"
  | fuel + 1 =>
    match ← nextJoined with
    | none =>
      match place.fault? with
      | some message => fail message
      | none => return collected found
    | some '\\' =>
      match ← next with
      | none => readParts nested fuel place (addCharacter true '\\' found)
      | some c =>
        countLines [c]
        let found := if place.escapes c then found else addCharacter true '\\' found
        readParts nested fuel place (addCharacter true c found)
    | some '$' =>
      match ← readExpansion nested fuel place with
      | some part => readParts nested fuel place (part :: found)
      | none => readParts nested fuel place (addCharacter place.quotes '$' found)
    | some '\x60' =>
      if place = .delimiter then
        readParts nested fuel place (.mark :: addCharacter false '\x60' found)
      else
      let text ← readBackquoted fuel place.quotes []
      let inside ← inText nested.toEnd text
      readParts nested fuel place (.output place.quotes inside :: found)
    | some '\'' =>
      if place.quotes then readParts nested fuel place (addCharacter true '\'' found)
      else
        let text ← readLiteral
        readParts nested fuel place (.mark :: .text true text.reverse :: .mark :: found)
    | some c => readCharacter nested fuel place c found

/-- Goes on with a character that has a meaning in some places only. -/
def readCharacter (nested : Nested) (fuel : Nat) (place : Place) (c : Char)
    (found : List Part) : Reading Word := do
  match fuel with
  | 0 => fail "Input too long"
  | fuel + 1 =>
    let added := addCharacter place.quotes c found
    match place, c with
    | .bare, '"' | .delimiter, '"' | .braces, '"' =>
      let inside ← readParts nested fuel (.double (place = .braces)) []
      readParts nested fuel place (.mark :: reopened inside ++ .mark :: found)
    | .double _, '"' | .braces, '}' | .quotedBraces false _, '}' => return collected found
    | .quotedBraces paired inDocument, '"' =>
      readParts nested fuel (.quotedBraces (!paired) inDocument) (.mark :: found)
    | .sum depth, '(' => readParts nested fuel (.sum (depth + 1)) added
    | .sum (depth + 1), ')' => readParts nested fuel (.sum depth) added
    | .sum 0, ')' =>
      match ← nextJoined with
      | some ')' => return collected found
      | after =>
        unread after
        readParts nested fuel place added
    | .document mark strips, '\n' =>
      countLines [c]
      if ← takeMark mark strips then return collected added
      readParts nested fuel place added
    | .bare, c | .delimiter, c =>
      if endsWord c then
        unread c
        return collected found
      readParts nested fuel place added
    | place, c =>
      countLines [c]
      readParts nested fuel place added

/-- Reads what follows a dollar sign, if it begins an expansion. -/
def readExpansion (nested : Nested) (fuel : Nat) (place : Place) : Reading (Option Part) := do
  match fuel with
  | 0 => fail "Input too long"
  | fuel + 1 =>
    if place = .delimiter then return none
    match ← nextJoined with
    | some '(' =>
      match ← nextJoined with
      | some '(' => return some (.arithmetic place.quotes (← readParts nested fuel (.sum 0) []))
      | after =>
        unread after
        return some (.output place.quotes (← inWord nested.inParentheses))
    | some '{' =>
      let opening ← readOpening fuel
      if opening.operation = .value then
        return some (.parameter place.quotes opening.name .value [])
      let trims := match opening.operation with
        | .trimFront _ | .trimBack _ => true
        | _ => false
      let word ← readParts nested fuel (place.insideBraces trims) []
      return some (.parameter place.quotes opening.name opening.operation word)
    | some c =>
      let (name, after) ← readName fuel false c
      unread after
      return name.map fun name => .parameter place.quotes name .value []
    | none => return none

end

end Reading

end CheckedBuild.Shell
