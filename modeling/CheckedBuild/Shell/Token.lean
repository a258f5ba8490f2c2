import CheckedBuild.Machine.Raw
import CheckedBuild.Shell.Reader

/-!
# Lexical units of a script

A unit is an operator, a redirection or a word; words in the place of a command may be keywords.
The documents that a line announces follow it and are kept in a table, where redirections find
them by their index.
-/

namespace CheckedBuild.Shell

open CheckedBuild.Machine

/-- The words that are keywords in the place of a command. -/
def keywords : List String :=
  ["!", "case", "do", "done", "elif", "else", "esac", "fi", "for", "if", "in", "then", "until",
   "while", "\x7b", "\x7d"]

/-- Builtin commands that change the shell so much that a failure of theirs ends it. -/
def specialBuiltins : List String :=
  [".", ":", "break", "continue", "eval", "exec", "exit", "export", "local", "readonly", "return",
   "set", "shift", "times", "trap", "unset"]

/-- Units that end a list of commands. -/
def Token.endsList : Token → Bool
  | .endOfFile | .closeParenthesis | .endOfClause => true
  | .keyword name =>
    ["do", "done", "elif", "else", "esac", "fi", "then", "\x7d"].contains name
  | _ => false

namespace Reading

/-- Stops at a unit that does not belong there. -/
def unexpected {α : Type} (expected : Option Token) : Reading α := do
  let found := (← get).token.spelling
  match expected with
  | some token =>
    fail (found ++ " unexpected (expecting " ++ token.spelling ++ ")")
  | none => fail (found ++ " unexpected")

/-- Lets the last unit be read again. -/
def back : Reading Unit := modify fun reader => { reader with isBack := true }

/-- Reads the lines of a document as they stand; those before are collected last first. -/
def readLines (document : Announced) (fuel : Nat) (reversed : List (List Char)) :
    Reading (List Char) := do
  match fuel with
  | 0 => fail "Input too long"
  | fuel + 1 =>
    let reader ← get
    let text := reader.input.takeWhile (· ≠ '\n')
    match reader.input.drop text.length with
    | [] =>
      set { reader with input := [] }
      return (text :: reversed).reverse.flatten
    | feed :: rest =>
      set { reader with input := rest, line := reader.line + 1 }
      let reversed := (text ++ [feed]) :: reversed
      if ← takeMark document.mark document.strips then return reversed.reverse.flatten
      readLines document fuel reversed

/-- Reads the text of an announced document. -/
def readDocument (nested : Nested) (document : Announced) : Reading Unit := do
  let keep (word : Word) : Reading Unit :=
    modify fun reader =>
      { reader with documents := reader.documents.setIfInBounds document.index word }
  if ← takeMark document.mark document.strips then keep []
  else if document.literal then keep [.text true (← readLines document (← get).fuel [])]
  else
    keep (← readParts nested (← get).fuel (.document document.mark document.strips) [])

/-- Reads the documents that were announced. -/
def readDocuments (nested : Nested) : Reading Unit := do
  let announced := (← get).announced
  modify fun reader => { reader with announced := [] }
  announced.forM (readDocument nested)

/-- Reads the kind of a redirection after its first character. -/
def readTarget (c : Char) (descriptor : Option Nat) : Reading Unit := do
  let set (standard : Nat) (target : Target) : Reading Unit :=
    modify fun reader =>
      { reader with descriptor := descriptor.getD standard, target, token := .redirection }
  if c = '>' then
    match ← nextJoined with
    | some '>' => set 1 .extend
    | some '|' => set 1 .overwrite
    | some '&' => set 1 .copy
    | after =>
      unread after
      set 1 .write
  else
    match ← nextJoined with
    | some '<' =>
      let after ← nextJoined
      if after ≠ some '-' then unread after
      modify fun reader => { reader with strips := after = some '-' }
      set 0 (.document 0)
    | some '&' => set 0 .copy
    | some '>' => set 0 .readWrite
    | after =>
      unread after
      set 0 .read

/-- Sets the last unit. -/
def found (token : Token) : Reading Token := do
  modify fun reader => { reader with token }
  return token

/-- Drops a comment. -/
def skipComment : Reading Unit :=
  modify fun reader => { reader with input := reader.input.dropWhile (· ≠ '\n') }

/-- Reads the next unit without regard to keywords; a word stands in the given place. -/
def readUnit (nested : Nested) (place : Place) (fuel : Nat) : Reading Token := do
  match fuel with
  | 0 => fail "Input too long"
  | fuel + 1 =>
    let double (second : Char) (yes no : Token) : Reading Token := do
      let after ← nextJoined
      if after = some second then found yes
      else
        unread after
        found no
    match ← nextJoined with
    | none => found .endOfFile
    | some ' ' | some '\t' => readUnit nested place fuel
    | some '#' =>
      skipComment
      readUnit nested place fuel
    | some '\n' =>
      countLines ['\n']
      found .newline
    | some '&' => double '&' .andIf .ampersand
    | some '|' => double '|' .orIf .pipe
    | some ';' => double ';' .endOfClause .semicolon
    | some '(' => found .openParenthesis
    | some ')' => found .closeParenthesis
    | some c =>
      unread (some c)
      let word ← readParts nested (← get).fuel place []
      match plainText? word, (← get).input with
      | some text, c :: rest =>
        if (c = '<' || c = '>') && text.length ≤ 1 && text.all Char.isDigit then
          modify fun reader => { reader with input := rest }
          readTarget c (Text.natural? text)
          return .redirection
        modify fun reader => { reader with word }
        found .word
      | _, _ =>
        modify fun reader => { reader with word }
        found .word

/-- Takes the last unit again if it was put back, else the next one. -/
def nextUnit (nested : Nested) (place : Place) : Reading Token := do
  let reader ← get
  if reader.isBack then
    set { reader with isBack := false }
    return reader.token
  readUnit nested place reader.fuel

/-- Takes the next unit that is no line feed. -/
def pastNewlines (nested : Nested) (fuel : Nat) : Reading Token := do
  match fuel with
  | 0 => fail "Input too long"
  | fuel + 1 =>
    let token ← nextUnit nested .bare
    if token ≠ .newline then return token
    readDocuments nested
    pastNewlines nested fuel

/-- Reads the next unit; line feeds are passed over and keywords recognized if so asked for. -/
def readToken (nested : Nested) (pastLines asKeyword : Bool) : Reading Token := do
  let token ←
    if pastLines then pastNewlines nested (← get).fuel else nextUnit nested .bare
  if token = .word && asKeyword then
    match plainText? (← get).word with
    | some text =>
      let text := String.ofList text
      if keywords.contains text then found (.keyword text) else return token
    | none => return token
  else return token

/-- Reads a unit that has to come. -/
def expect (nested : Nested) (pastLines asKeyword : Bool) (token : Token) : Reading Unit := do
  if (← readToken nested pastLines asKeyword) ≠ token then unexpected (some token)

/-- Reads the word of a redirection. -/
def readRedirection (nested : Nested) : Reading Redirection := do
  let reader ← get
  match reader.target with
  | .document _ =>
    if (← nextUnit nested .delimiter) ≠ .word then unexpected none
    let word := (← get).word
    let index := (← get).documents.size
    let document : Announced := ⟨index, unquotedText word, isQuoted word, reader.strips⟩
    modify fun reader =>
      { reader with
        documents := reader.documents.push [], announced := reader.announced ++ [document] }
    return .mk reader.descriptor (.document index) []
  | target =>
    if (← readToken nested false false) ≠ .word then unexpected none
    return .mk reader.descriptor target (← get).word

end Reading

end CheckedBuild.Shell
