/-!
# Shell commands

A command is a tree of simple commands, which are words with assignments and redirections.
Words are kept in parts until they are expanded, since quoting decides what expansion does. The
characters of a word stand for single bytes.
-/

namespace CheckedBuild.Shell

/-- What an expansion makes of the value of a parameter. With a colon an empty value counts as
none. -/
inductive Operation where
  | value
  | length
  /-- The word in the place of no value. -/
  | fallback (colon : Bool)
  /-- The same, and the word becomes the value. -/
  | assign (colon : Bool)
  /-- The word in the place of a value. -/
  | alternative (colon : Bool)
  /-- No value ends the shell with the word as its message. -/
  | demand (colon : Bool)
  | trimFront (longest : Bool)
  | trimBack (longest : Bool)
  /-- Unreadable; it fails when it is expanded. -/
  | bad
deriving DecidableEq, Repr

/-- What a redirection connects a descriptor to. -/
inductive Target where
  | read
  | write
  /-- What is there is replaced even if files are protected. -/
  | overwrite
  | extend
  | readWrite
  | copy
  /-- A document that stands in the script. -/
  | document (index : Nat)
deriving DecidableEq, Repr

mutual

/-- A part of a word. -/
inductive Part where
  | text (quoted : Bool) (text : List Char)
  /-- A quotation mark, which makes a field of a word that is otherwise empty. -/
  | mark
  | parameter (quoted : Bool) (name : List Char) (operation : Operation) (word : List Part)
  | output (quoted : Bool) (script : Script)
  | arithmetic (quoted : Bool) (expression : List Part)

/-- A redirection of a descriptor. -/
inductive Redirection where
  | mk (descriptor : Nat) (target : Target) (word : List Part)

/-- A command. Those that can fail by themselves know their line in the script. -/
inductive Script where
  | nothing
  | simple (line : Nat) (assignments words : List (List Part)) (redirections : List Redirection)
  | pipeline (stages : List Script)
  | negate (script : Script)
  | both (left right : Script)
  | either (left right : Script)
  | sequence (first second : Script)
  | background (line : Nat) (script : Script) (redirections : List Redirection)
  | branch (condition yes : Script) (no : Option Script)
  /-- A loop that runs while its condition has the given outcome. -/
  | loop (wanted : Bool) (condition body : Script)
  | each (line : Nat) (name : List Char) (words : List (List Part)) (body : Script)
  | select (line : Nat) (word : List Part) (clauses : List (List (List Part) × Script))
  | redirected (line : Nat) (script : Script) (redirections : List Redirection)
  | subshell (line : Nat) (script : Script) (redirections : List Redirection)
  | define (name : List Char) (body : Script)

end

/-- A word before its expansion. -/
abbrev Word := List Part

/-- The descriptor of a redirection. -/
def Redirection.descriptor : Redirection → Nat
  | .mk descriptor _ _ => descriptor

/-- The kind of a redirection. -/
def Redirection.target : Redirection → Target
  | .mk _ target _ => target

/-- The word of a redirection. -/
def Redirection.word : Redirection → Word
  | .mk _ _ word => word

/-- Whether a character begins a name. -/
def beginsName (c : Char) : Bool := c.isAlpha || c = '_'

/-- Whether a character goes on with a name. -/
def continuesName (c : Char) : Bool := c.isAlphanum || c = '_'

/-- Whether a text is a name. -/
def isName : List Char → Bool
  | [] => false
  | c :: rest => beginsName c && rest.all continuesName

/-- Whether a word is an assignment, as its first characters tell. -/
def isAssignment : Word → Bool
  | .text false s :: _ => isName (s.takeWhile (· ≠ '=')) && s.contains '='
  | _ => false

/-- Whether quotes of any kind stand in a word. -/
def isQuoted (word : Word) : Bool :=
  word.any fun
    | .mark | .text true _ => true
    | _ => false

/-- A word that is plain text. -/
def plainText? : Word → Option (List Char)
  | [] => some []
  | [.text false s] => some s
  | _ => none

/-- The characters of a word that expands to itself. -/
def unquotedText (word : Word) : List Char :=
  word.flatMap fun
    | .text _ s => s
    | _ => []

/-- All positional parameters, each of them a field. -/
def allParameters : Word := [.mark, .parameter true ['@'] .value [], .mark]

end CheckedBuild.Shell
