/-!
# A language for records

A program consists of rules: a pattern selects records, and an action is what is done with them.
Actions are written in a small language with numbers, texts, tables and functions.
-/

namespace CheckedBuild.Records

/-- The operators on numbers. -/
inductive Arithmetic where
  | add
  | subtract
  | multiply
  | divide
  | remainder
  | power
deriving DecidableEq, Repr

/-- The comparisons. -/
inductive Comparison where
  | less
  | lessOrEqual
  | equal
  | different
  | greater
  | greaterOrEqual
deriving DecidableEq, Repr

/-- Where a line is read from. -/
inductive Origin where
  | input
  | file
  | command
deriving DecidableEq, Repr

/-- Expressions. -/
inductive Expression where
  | number (x : Float)
  | text (s : List Char)
  /-- A pattern that is matched against the record. -/
  | pattern (s : List Char)
  | name (name : List Char)
  | field (index : Expression)
  | element (table : List Char) (indices : List Expression)
  /-- Parentheses, which may hold several expressions. -/
  | group (inside : List Expression)
  | assign (operator : Option Arithmetic) (target value : Expression)
  /-- Adds to a target; the value is that before or after it. -/
  | step (before : Bool) (amount : Float) (target : Expression)
  | arithmetic (operator : Arithmetic) (left right : Expression)
  | negate (inside : Expression)
  | plus (inside : Expression)
  | not (inside : Expression)
  | join (left right : Expression)
  | compare (operator : Comparison) (left right : Expression)
  | isMatch (negated : Bool) (left right : Expression)
  | both (left right : Expression)
  | either (left right : Expression)
  | choose (condition yes no : Expression)
  | contains (table : List Char) (indices : List Expression)
  | builtin (name : String) (arguments : List Expression)
  | call (name : List Char) (arguments : List Expression)
  | readLine (origin : Origin) (source : List Expression) (target : List Expression)

/-- Where a statement prints to. -/
inductive Target where
  | output
  | file (name : Expression) (keeps : Bool)
  | command (command : Expression)

/-- Statements. -/
inductive Statement where
  | block (inside : List Statement)
  | expression (expression : Expression)
  | print (arguments : List Expression) (target : Target)
  | printFormat (arguments : List Expression) (target : Target)
  | branch (condition : Expression) (yes no : Statement)
  | whileLoop (condition : Expression) (body : Statement)
  | doLoop (body : Statement) (condition : Expression)
  | forLoop (first : Statement) (condition : Option Expression) (next body : Statement)
  | forEach (name table : List Char) (body : Statement)
  | delete (table : List Char) (indices : List Expression)
  | next
  | nextFile
  | exit (status : Option Expression)
  | giveBack (value : Option Expression)
  | leave
  | goOn

/-- What selects records. -/
inductive Selection where
  | first
  | last
  | always
  | condition (condition : Expression)
  | range (start stop : Expression)

/-- A rule; without an action the record is printed. -/
structure Rule where
  selection : Selection
  action : Option Statement

/-- A function: its name, its parameters and its body. -/
structure Function where
  name : List Char
  parameters : List (List Char)
  body : Statement

/-- A program. -/
structure Program where
  rules : List Rule := []
  functions : List Function := []

end CheckedBuild.Records
