import CheckedBuild.Text.Regular

/-!
# Scripts of a stream editor

A script is a row of commands, each for the lines that its addresses select. A block is a command
that leads past the matching brace when its lines are not selected.
-/

namespace CheckedBuild.Editing

open Text

/-- A pattern, or nothing for the one that was used last; the flag says that case does not
count. -/
abbrev Pattern := Option (Regular.Expression × Bool)

/-- What selects a line. -/
inductive Address where
  | line (number : Nat)
  | last
  /-- A line and those that follow it at a distance. -/
  | step (first distance : Nat)
  | pattern (pattern : Pattern)

/-- Where a range of lines ends. -/
inductive Bound where
  | address (address : Address)
  /-- So many lines later. -/
  | after (count : Nat)
  /-- At the next multiple. -/
  | multiple (factor : Nat)

/-- The lines that a command is for. -/
structure Selector where
  first : Option Address := none
  bound : Option Bound := none
  negated : Bool := false

/-- What becomes of the case of letters. -/
inductive Case where
  | upper
  | lower
  | kept
deriving DecidableEq

/-- A piece of what is put in the place of a match. -/
inductive Piece where
  | text (s : List Char)
  /-- What a group has matched, or everything for number zero. -/
  | group (number : Nat)
  /-- Changes the case of what follows, or of its first letter only. -/
  | case (case : Case) (once : Bool)

/-- Putting something in the place of a match. -/
structure Substitution where
  pattern : Pattern
  replacement : List Piece
  /-- Which match is the first to be replaced, if that has been said. -/
  start : Option Nat := none
  all : Bool := false
  /-- The new text is run as a command, and what that prints takes its place. -/
  runs : Bool := false
  /-- The new text is printed: as it is, or what comes of running it. -/
  printsText : Bool := false
  printsResult : Bool := false
  file : Option (List Char) := none

/-- What a command does. -/
inductive Action where
  /-- Goes on, or after the command of the given number if the line is not selected. -/
  | block (last : Nat)
  | label (name : List Char)
  | append (text : List Char)
  | insert (text : List Char)
  | change (text : List Char)
  /-- Runs a command, or the text of the line if there is none. -/
  | run (command : List Char)
  | branch (name : List Char)
  /-- Branches if something was replaced, or if nothing was. -/
  | branchIf (replaced : Bool) (name : List Char)
  | delete
  | deleteFirst
  | hold
  | holdMore
  | recall
  | recallMore
  | exchange
  | next
  | nextMore
  | print
  | printFirst
  | number
  /-- Shows the line in pieces, which have a greatest width if one is given. -/
  | show (width : Option Nat)
  | fileName
  | clear
  | quit (prints : Bool) (status : Nat)
  | read (name : List Char)
  | readLine (name : List Char)
  | write (name : List Char) (firstOnly : Bool)
  | substitute (substitution : Substitution)
  | exchangeLetters (pairs : List (Char × Char))

/-- A command. -/
structure Command where
  selector : Selector
  action : Action

/-- The files that a command writes to. -/
def Command.written (command : Command) : List (List Char) :=
  match command.action with
  | .write name _ => [name]
  | .substitute substitution => substitution.file.toList
  | _ => []

/-- Where a part of a script comes from. -/
inductive Origin where
  | argument (number : Nat)
  | file (name : List Char)

/-- Why a text is no script, or why a script cannot be carried out. -/
inductive Fault where
  /-- Something is wrong at a place of a part: behind so many characters of an argument, or in a
  line of a file. -/
  | spelling (origin : Origin) (place : Nat) (reason : String)
  | grave (reason : List Char)

/-- The fault in words. -/
def Fault.message : Fault → List Char
  | .spelling (.argument number) place reason =>
    ("-e expression #" ++ toString number ++ ", char " ++ toString place ++ ": " ++ reason).toList
  | .spelling (.file name) place reason =>
    "file ".toList ++ name ++ (" line " ++ toString place ++ ": " ++ reason).toList
  | .grave reason => reason

/-- The status of an editor that ends with the fault. -/
def Fault.status : Fault → Nat
  | .spelling .. => 1
  | .grave _ => 4

/-- A script: its commands, and where its text ends. -/
structure Script where
  commands : Array Command
  origin : Origin
  /-- The place that complaints about the whole script name. -/
  place : Nat
  /-- Lines are printed only on request. -/
  isSilent : Bool

end CheckedBuild.Editing
