import CheckedBuild.Machine.Kernel
import CheckedBuild.Machine.Locate

/-!
# Finding what a program runs

A program's name with a slash is a path; any other name is looked for in the directories of the
search path, where a file without permission to be run is passed over but remembered. A script
runs under the interpreter that its first line names, which may be a script in turn; a file that
is no program and names no interpreter is one for the shell, if the caller takes it as such.
-/

namespace CheckedBuild.Machine

/-- What is run in the end: a tool, the name it is called by, and its arguments. -/
structure Launch where
  tool : String
  name : List Char
  arguments : List (List Char)

/-- The node at a path if it may be run. -/
def runnable (files : FileSystem) (path : String) : Except Refusal Node :=
  match files.find path with
  | .error refusal => .error refusal
  | .ok (_, node) => if node.isExecutable then .ok node else .error .denied

/-- How much of a script is read for its first line. -/
def headLength : Nat := 256

/-- The interpreter that a script names in its first line, and the argument it gives to it. A
name that is cut off by the end of what is read counts as none. -/
def interpreterOf? (head : List Char) : Option (List Char × List (List Char)) :=
  let isBlank (c : Char) : Bool := c = ' ' || c = '\t'
  let endsName (c : Char) : Bool := isBlank c || c = '\x00'
  match head with
  | '#' :: '!' :: rest =>
    let line := rest.takeWhile (· ≠ '\n')
    let trimmed := ((line.dropWhile isBlank).reverse.dropWhile isBlank).reverse
    let name := trimmed.takeWhile fun c => !endsName c
    let tail := trimmed.drop name.length
    let argument := (tail.dropWhile isBlank).takeWhile (· ≠ '\x00')
    let isWhole := line.length < rest.length || head.length < headLength
      || (line.dropWhile isBlank).any endsName
    if name.isEmpty || !isWhole then none
    else some (name, if argument.isEmpty || tail.head? = some '\x00' then [] else [argument])
  | _ => none

/-- How often the file to be run may turn out to be a script. -/
def scriptLevels : Nat := 6

/-- Runs the node at a path with its name and its arguments, going through interpreters. -/
def resolveNode (files : FileSystem) (levels : Nat) (path : List Char) (node : Node)
    (name : List Char) (arguments : List (List Char)) : Except Refusal Launch :=
  match levels with
  | 0 => .error .tooManyLevels
  | levels + 1 =>
    match node.content with
    | .tool tool => .ok ⟨tool, name, arguments⟩
    | .file data =>
      match interpreterOf? (rawOfBytes (data.bytes.take headLength)) with
      | none => .error .notProgram
      | some (interpreter, given) =>
        match runnable files (textOfRaw interpreter) with
        | .error refusal => .error refusal
        | .ok node =>
          resolveNode files levels interpreter node interpreter (given ++ path :: arguments)
    | _ => .error .denied

/-- The longest argument, in bytes without the one that ends it. -/
def longestArgument : Nat := 131071

/-- The room for all arguments and variables together, in bytes. -/
def argumentRoom : Nat := 2097152

/-- Whether arguments and variables are within the limits. -/
def fits (strings : List (List Char)) : Bool :=
  strings.all (fun s => s.length ≤ longestArgument)
    && strings.foldl (fun n s => n + s.length + 9) 0 < argumentRoom

/-- Runs the file at a path; `variables` are the settings that it inherits. -/
def execute (files : FileSystem) (given : List (List Char)) (path : String) (name : List Char)
    (arguments : List (List Char)) : Except Refusal Launch :=
  match runnable files path with
  | .error refusal => .error refusal
  | .ok node =>
    if fits (name :: arguments ++ given) then
      resolveNode files scriptLevels (rawOf path) node name arguments
    else .error .tooManyArguments

/-- The name of the shell. -/
def shellPath : String := "/bin/sh"

/-- Runs the file at a path, under the shell if it is no program. -/
def executeOrShell (files : FileSystem) (given : List (List Char)) (path : String)
    (name : List Char) (arguments : List (List Char)) : Except Refusal Launch :=
  match execute files given path name arguments with
  | .error .notProgram =>
    execute files given shellPath (rawOf shellPath) (rawOf path :: arguments)
  | outcome => outcome

/-- The longest directory of a search path that is looked at. -/
def longestDirectory : Nat := 4095

/-- Looks a plain name up in directories: `last` is the latest refusal, and `refused` tells that
a file without permission was passed over. Any other fault than that ends the search. -/
def searchIn (files : FileSystem) (given : List (List Char)) (name : String)
    (arguments : List (List Char)) (refused : Bool) (last : Refusal) :
    List String → Except Refusal Launch
  | [] => .error (if refused then .denied else last)
  | directory :: rest =>
    let isLong := longestDirectory < (Utf8.bytesOf directory).length
    -- an overlong directory counts as the working directory unless it is the last one
    let path := if directory = "" || isLong then name else directory ++ "/" ++ name
    if isLong && rest.isEmpty then .error (if refused then .denied else last) else
    match executeOrShell files given path (rawOf name) arguments with
    | .error .denied => searchIn files given name arguments true .denied rest
    | .error .notFound => searchIn files given name arguments refused .notFound rest
    | .error .notDirectory => searchIn files given name arguments refused .notDirectory rest
    | outcome => outcome

/-- What a program's name stands for when it is looked for in a search path. -/
def search (files : FileSystem) (given : List (List Char)) (searchPath name : String)
    (arguments : List (List Char)) : Except Refusal Launch :=
  searchIn files given name arguments false .notFound (FileSystem.directoriesOf searchPath)

/-- What a program's name stands for: a path is run as it is, any other name is looked for. -/
def launch (files : FileSystem) (given : List (List Char)) (searchPath name : String)
    (arguments : List (List Char)) : Except Refusal Launch :=
  if name = "" then .error .notFound
  else if '/' ∈ name.toList then execute files given name (rawOf name) arguments
  else search files given searchPath name arguments

end CheckedBuild.Machine
