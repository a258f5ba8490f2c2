import CheckedBuild.Machine.Tools.Directives
import CheckedBuild.Shell.Directory
import CheckedBuild.Shell.Mask
import CheckedBuild.Shell.Redirect
import CheckedBuild.Shell.Test

/-!
# Builtin commands

Builtin commands run in the shell itself: they print texts, test conditions and look programs up.
Each one is a step that takes its arguments and yields a status.
-/

namespace CheckedBuild.Shell

open CheckedBuild.Machine

/-- Prints a formatted text after the complaints about its arguments. -/
def printFormatted (arguments : List (List Char)) : Run Nat := do
  let (_, operands) ← takeFlags "" arguments
  match operands with
  | [] => fail "usage: printf format [arg ...]".toList
  | format :: rest =>
    let printed := Format.printf .brief format rest
    printed.faults.forM fun fault => complain fault.briefMessage
    print printed.text
    return printed.status

/-- Tests a condition; `bracketed` tells that a bracket has to close it. -/
def testCondition (bracketed : Bool) (arguments : List (List Char)) : Run Nat := do
  if bracketed && arguments.getLast? ≠ some [']'] then fail "missing ]".toList
  let condition := if bracketed then arguments.dropLast else arguments
  let state ← get
  match Test.evaluate state.kernel state.descriptors 4 condition with
  | .ok value => return if value then 0 else 1
  | .error message => fail message

/-- Shows or sets the permissions that new files do not get. -/
def changeMask (arguments : List (List Char)) : Run Nat := do
  let (flags, operands) ← takeFlags "S" arguments
  let mask := (← get).kernel.files.mask
  match operands with
  | [] =>
    print ((if flags.isEmpty then maskDigits mask else grantedLetters mask) ++ ['\n'])
    return 0
  | mode :: _ =>
    match maskFrom mask mode with
    | .ok mask =>
      modify fun state =>
        let files := { state.kernel.files with mask }
        { state with kernel := { state.kernel with files } }
      return 0
    | .error .digits => illegalNumber mode
    | .error .letters => fail ("Illegal mode: ".toList ++ mode)

/-- What a name stands for in the place of a command. -/
inductive Meaning where
  | builtin (name : String)
  | function (body : Script)
  | program

/-- The builtin commands that are not special. -/
def plainBuiltins : List String :=
  ["[", "alias", "bg", "cd", "chdir", "command", "echo", "false", "fg", "getopts", "hash", "jobs",
   "kill", "printf", "pwd", "read", "test", "true", "type", "ulimit", "umask", "unalias",
   "wait"]

/-- What a name stands for; functions may be left out. -/
def State.meaning (state : State) (withFunctions : Bool) (name : List Char) : Meaning :=
  let text := String.ofList name
  if specialBuiltins.contains text then .builtin text
  else
    match if withFunctions then state.functions.lookup name else none with
    | some body => .function body
    | none => if plainBuiltins.contains text then .builtin text else .program

/-- The paths under which a program may be found in the directories of the search path. -/
def State.programPaths (state : State) (name : List Char) : List (List Char) :=
  (FileSystem.directoriesOf state.searchPath).map fun directory =>
    if directory = "" then name else rawOf directory ++ '/' :: name

/-- The paths from the first regular file on, or why there is none. -/
def programFrom (files : FileSystem) (last : Refusal) :
    List (List Char) → Except Refusal (List (List Char))
  | [] => .error last
  | path :: rest =>
    match files.find (textOfRaw path) with
    | .error .notFound | .error .notDirectory => programFrom files last rest
    | .error refusal => programFrom files refusal rest
    | .ok (_, node) =>
      if node.isRegular then .ok (path :: rest)
      else programFrom files .denied rest

/-- Where a program is found in the search path, and the paths after it. -/
def State.findProgram (state : State) (name : List Char) : Except Refusal (List (List Char)) :=
  programFrom state.kernel.files .notFound (state.programPaths name)

/-- Tells what a name stands for, in one word or in a sentence. -/
def describe (sentence : Bool) (name : List Char) : Run Nat := do
  let state ← get
  let tell (word : List Char) (rest : String) : Run Nat := do
    print (if sentence then name ++ ' ' :: rest.toList ++ word ++ ['\n'] else word ++ ['\n'])
    return 0
  let tellName (rest : String) : Run Nat := do
    print (if sentence then name ++ ' ' :: rest.toList ++ ['\n'] else name ++ ['\n'])
    return 0
  let missing : Run Nat := do
    if sentence then print (name ++ ": not found\n".toList)
    return 127
  if keywords.contains (String.ofList name) then return ← tellName "is a shell keyword"
  match state.meaning true name with
  | .builtin text =>
    tellName (if specialBuiltins.contains text then "is a special shell builtin"
      else "is a shell builtin")
  | .function _ => tellName "is a shell function"
  | .program =>
    if name.contains '/' then
      if state.kernel.files.exists? (textOfRaw name) then tell name "is " else missing
    else
      match state.findProgram name with
      | .ok (path :: _) =>
        tell path (if state.known.contains name then "is a tracked alias for " else "is ")
      | _ => missing

/-- Describes names; the status is that of the last one that stands for nothing. -/
def describeAll (names : List (List Char)) : Run Nat := do
  names.foldlM (fun status name => do
    let one ← describe true name
    return status ||| one) 0

/-- Looks programs up in advance. -/
def remember (arguments : List (List Char)) : Run Nat := do
  let (flags, names) ← takeFlags "rv" arguments
  if flags.contains 'r' then modify fun state => { state with known := [] }
  if names.isEmpty then
    let state ← get
    state.known.reverse.forM fun name => do
      match state.findProgram name with
      | .ok (path :: _) => print (path ++ ['\n'])
      | _ => return
    return 0
  let mut status := 0
  for name in names do
    match (← get).meaning true name, (← get).findProgram name with
    | .program, .ok _ => modify fun state => { state with known := name :: state.known }
    | .program, .error _ =>
      complain (name ++ ": not found".toList)
      status := 1
    | _, _ => pure ()
  return status

end CheckedBuild.Shell
