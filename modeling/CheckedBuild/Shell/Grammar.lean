import CheckedBuild.Shell.Token

/-!
# Reading commands

A script is read one complete command at a time, so that a fault in a later line is found only
after the earlier ones have run. Lists are made of pipelines joined by operators, pipelines of
commands, and commands are compound ones between keywords, functions or simple ones.
-/

namespace CheckedBuild.Shell

open CheckedBuild.Machine

/-- Where a list of commands stands. -/
inductive Extent where
  /-- On a line of its own, which ends it. -/
  | line
  /-- Between keywords; there has to be a command. -/
  | block
  /-- The same, but it may be empty. -/
  | optional
deriving DecidableEq, Repr

/-- One command after another one. -/
def Script.followedBy : Script → Script → Script
  | .nothing, second => second
  | first, second => .sequence first second

/-- A command to be run in the background. -/
def Script.inBackground : Script → Script
  | .redirected line script redirections => .background line script redirections
  | .simple line assignments words redirections =>
    .background line (.simple line assignments words redirections) []
  | script => .background 0 script []

namespace Reading

/-- Reads the words of a `for` loop. -/
def readWords (nested : Nested) (fuel : Nat) (reversed : List Word) : Reading (List Word) := do
  match fuel with
  | 0 => fail "Input too long"
  | fuel + 1 =>
    if (← readToken nested false false) = .word then
      readWords nested fuel ((← get).word :: reversed)
    else return reversed.reverse

/-- Reads the redirections that follow a compound command. -/
def readRedirections (nested : Nested) (fuel : Nat) (reversed : List Redirection) :
    Reading (List Redirection) := do
  match fuel with
  | 0 => fail "Input too long"
  | fuel + 1 =>
    if (← readToken nested false true) = .redirection then
      let redirection ← readRedirection nested
      readRedirections nested fuel (redirection :: reversed)
    else
      back
      return reversed.reverse

/-- Reads the patterns of a clause up to the parenthesis that closes them. -/
def readPatterns (nested : Nested) (fuel : Nat) (reversed : List Word) : Reading (List Word) := do
  match fuel with
  | 0 => fail "Input too long"
  | fuel + 1 =>
    let reversed := (← get).word :: reversed
    match ← readToken nested false false with
    | .pipe =>
      let _ ← readToken nested false false
      readPatterns nested fuel reversed
    | .closeParenthesis => return reversed.reverse
    | _ => unexpected (some .closeParenthesis)

/-- What a simple command is made of; the lists have the last element first. -/
structure Gathered where
  assignments : List Word := []
  words : List Word := []
  redirections : List Redirection := []

/-- What the words of a simple command turn out to be. -/
inductive Simple where
  | command (gathered : Gathered)
  /-- A name before a pair of parentheses. -/
  | function (name : List Char)

/-- Reads a simple command, or the name of a function. -/
def readSimple (nested : Nested) (fuel : Nat) (gathered : Gathered) : Reading Simple := do
  match fuel with
  | 0 => fail "Input too long"
  | fuel + 1 =>
    match ← readToken nested false false with
    | .word =>
      let word := (← get).word
      if gathered.words.isEmpty && isAssignment word then
        readSimple nested fuel { gathered with assignments := word :: gathered.assignments }
      else readSimple nested fuel { gathered with words := word :: gathered.words }
    | .redirection =>
      let redirection ← readRedirection nested
      readSimple nested fuel
        { gathered with redirections := redirection :: gathered.redirections }
    | .openParenthesis =>
      match gathered with
      | ⟨[], [word], []⟩ =>
        expect nested false false .closeParenthesis
        match plainText? word with
        | some name =>
          if !isName name || specialBuiltins.contains (String.ofList name) then
            fail "Bad function name"
          return .function name
        | none => fail "Bad function name"
      | gathered =>
        back
        return .command gathered
    | _ =>
      back
      return .command gathered

mutual

/-- Reads scripts inside of words. -/
def nested : Nat → Nested
  | 0 => ⟨fail "Input too long", fail "Input too long"⟩
  | fuel + 1 =>
    { inParentheses := do
        let script ← readList fuel .optional .nothing
        expect (nested fuel) false false .closeParenthesis
        readDocuments (nested fuel)
        return script
      toEnd := readList fuel .optional .nothing }

/-- Reads a list of commands after those that were read before. -/
def readList (fuel : Nat) (extent : Extent) (before : Script) : Reading Script := do
  match fuel with
  | 0 => fail "Input too long"
  | fuel + 1 =>
    match ← readToken (nested fuel) (extent ≠ .line) true with
    | .newline =>
      readDocuments (nested fuel)
      return before
    | .endOfFile =>
      readDocuments (nested fuel)
      let _ ← found .endOfFile
      back
      return before
    | token =>
      back
      if extent = .optional && token.endsList then return before
      let command ← readAndOr fuel none
      let extent := if extent = .block then .optional else extent
      match ← readToken (nested fuel) false false with
      | .ampersand => readList fuel extent (before.followedBy command.inBackground)
      | .semicolon => readList fuel extent (before.followedBy command)
      | .newline =>
        back
        readList fuel extent (before.followedBy command)
      | .endOfFile =>
        readDocuments (nested fuel)
        let _ ← found .endOfFile
        back
        return before.followedBy command
      | _ =>
        if extent = .line then unexpected none
        back
        return before.followedBy command

/-- Reads pipelines joined by `&&` and `||`; the first ones may have been read. -/
def readAndOr (fuel : Nat) (left : Option Script) : Reading Script := do
  match fuel with
  | 0 => fail "Input too long"
  | fuel + 1 =>
    match left with
    | none => readAndOr fuel (some (← readPipeline fuel false))
    | some left =>
      match ← readToken (nested fuel) false false with
      | .andIf => readAndOr fuel (some (.both left (← readPipeline fuel true)))
      | .orIf => readAndOr fuel (some (.either left (← readPipeline fuel true)))
      | _ =>
        back
        return left

/-- Reads a pipeline; `begins` tells that line feeds may precede it. -/
def readPipeline (fuel : Nat) (begins : Bool) : Reading Script := do
  match fuel with
  | 0 => fail "Input too long"
  | fuel + 1 =>
    let negated := (← readToken (nested fuel) begins begins) = .keyword "!"
    if !negated then back
    let first ← readCommand fuel false negated
    let stages ← readStages fuel [first]
    let script := match stages with
      | [stage] => stage
      | stages => .pipeline stages
    return if negated then .negate script else script

/-- Reads the further stages of a pipeline. -/
def readStages (fuel : Nat) (reversed : List Script) : Reading (List Script) := do
  match fuel with
  | 0 => fail "Input too long"
  | fuel + 1 =>
    if (← readToken (nested fuel) false false) = .pipe then
      let stage ← readCommand fuel true true
      readStages fuel (stage :: reversed)
    else
      back
      return reversed.reverse

/-- Reads the rest of a branch after its first keyword. -/
def readBranch (fuel : Nat) : Reading Script := do
  match fuel with
  | 0 => fail "Input too long"
  | fuel + 1 =>
    let condition ← readList fuel .block .nothing
    expect (nested fuel) false false (.keyword "then")
    let yes ← readList fuel .block .nothing
    match ← readToken (nested fuel) false false with
    | .keyword "elif" => return .branch condition yes (some (← readBranch fuel))
    | .keyword "else" =>
      let no ← readList fuel .block .nothing
      expect (nested fuel) false false (.keyword "fi")
      return .branch condition yes (some no)
    | .keyword "fi" => return .branch condition yes none
    | _ => unexpected (some (.keyword "fi"))

/-- Reads the clauses of a `case` command; those before are collected last first. -/
def readClauses (fuel : Nat) (reversed : List (List Word × Script)) :
    Reading (List (List Word × Script)) := do
  match fuel with
  | 0 => fail "Input too long"
  | fuel + 1 =>
    let token ← readToken (nested fuel) true true
    if token = .keyword "esac" then return reversed.reverse
    if token = .openParenthesis then
      let _ ← readToken (nested fuel) false false
    let patterns ← readPatterns (nested fuel) fuel []
    let body ← readList fuel .optional .nothing
    let reversed := (patterns, body) :: reversed
    match ← readToken (nested fuel) true true with
    | .keyword "esac" => return reversed.reverse
    | .endOfClause => readClauses fuel reversed
    | _ => unexpected (some .endOfClause)

/-- Reads a command with its redirections. -/
def readCommand (fuel : Nat) (pastLines asKeyword : Bool) : Reading Script := do
  match fuel with
  | 0 => fail "Input too long"
  | fuel + 1 =>
    let line := (← get).line
    let words := nested fuel
    let withRedirections (script : Script) : Reading Script := do
      match ← readRedirections words fuel [] with
      | [] => return script
      | redirections => return .redirected line script redirections
    let loop (wanted : Bool) : Reading Script := do
      let condition ← readList fuel .block .nothing
      expect words false false (.keyword "do")
      let body ← readList fuel .block .nothing
      expect words false false (.keyword "done")
      withRedirections (.loop wanted condition body)
    match ← readToken words pastLines asKeyword with
    | .keyword "if" => withRedirections (← readBranch fuel)
    | .keyword "while" => loop true
    | .keyword "until" => loop false
    | .keyword "for" =>
      let token ← readToken words false false
      let name := unquotedText (← get).word
      if token ≠ .word || (plainText? (← get).word).isNone || !isName name then
        fail "Bad for loop variable"
      let list ←
        if (← readToken words true true) = .keyword "in" then
          let list ← readWords words fuel []
          if (← get).token ≠ .newline && (← get).token ≠ .semicolon then unexpected none
          pure list
        else
          if (← get).token ≠ .semicolon then back
          pure [allParameters]
      expect words true true (.keyword "do")
      let body ← readList fuel .block .nothing
      expect words false false (.keyword "done")
      withRedirections (.each line name list body)
    | .keyword "case" =>
      if (← readToken words false false) ≠ .word then unexpected (some .word)
      let word := (← get).word
      expect words true true (.keyword "in")
      let clauses ← readClauses fuel []
      withRedirections (.select line word clauses)
    | .openParenthesis =>
      let body ← readList fuel .block .nothing
      expect words false false .closeParenthesis
      return .subshell line body (← readRedirections words fuel [])
    | .keyword "\x7b" =>
      let body ← readList fuel .block .nothing
      expect words false false (.keyword "\x7d")
      withRedirections body
    | .word | .redirection =>
      let line := (← get).line
      back
      match ← readSimple words fuel {} with
      | .function name => return .define name (← readCommand fuel true true)
      | .command gathered =>
        return .simple line gathered.assignments.reverse gathered.words.reverse
          gathered.redirections.reverse
    | _ => unexpected none

end

/-- What reading a command of a script comes to. -/
inductive Outcome where
  /-- A command, and whether the script ends after it. -/
  | command (script : Script) (isLast : Bool)
  | done

/-- Reads the next complete command. -/
def readCommandLine : Reading Outcome := do
  modify fun reader => { reader with isBack := false, announced := [] }
  let fuel := (← get).fuel
  let script ← readList fuel .line .nothing
  let reader ← get
  let isLast := reader.isBack && reader.token = .endOfFile
  match script with
  | .nothing => return if isLast then .done else .command .nothing false
  | script => return .command script isLast

end Reading

end CheckedBuild.Shell
