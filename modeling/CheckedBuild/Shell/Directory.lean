import CheckedBuild.Shell.Letters

/-!
# The working directory of a shell

A shell remembers by which path it came to its working directory. Relative paths continue that
path, in which two dots take the last component away, whatever links there are on the way.
-/

namespace CheckedBuild.Shell

open CheckedBuild.Machine

/-- The path of the working directory without links. -/
def physicalDirectory (kernel : Kernel) : List Char :=
  '/' :: Text.joinWith ['/'] (kernel.files.workingDirectory.map rawOf)

/-- The path by which a shell comes to its first working directory: the inherited one if it leads
there. -/
def firstDirectory (kernel : Kernel) (inherited? : Option (List Char)) : List Char :=
  match inherited? with
  | some path =>
    let leadsHere := match kernel.files.resolve (textOfRaw path) with
      | .ok name => decide (name = kernel.files.workingDirectory)
      | .error _ => false
    if path.head? = some '/' && leadsHere then path else physicalDirectory kernel
  | none => physicalDirectory kernel

/-- The slashes at the front of an absolute path: two stay two, any other number becomes one. -/
def rootOf (path : List Char) : List Char :=
  if (path.takeWhile (· = '/')).length = 2 then ['/', '/'] else ['/']

/-- The path that another one leads to from a working directory. -/
def continuedPath (directory path : List Char) : List Char :=
  let isAbsolute := path.head? = some '/'
  let start := if isAbsolute then [] else Text.pieces '/' directory
  let components := (start ++ Text.pieces '/' path).foldl (fun components piece =>
    if piece.isEmpty || piece = ['.'] then components
    else if piece = ['.', '.'] then components.drop 1
    else piece :: components) []
  rootOf (if isAbsolute then path else directory) ++ Text.joinWith ['/'] components.reverse

/-- Changes the working directory if the path leads to one. -/
def enter (physical : Bool) (path : List Char) : Run Bool := do
  let state ← get
  let logical := continuedPath state.directory path
  match state.kernel.files.find (textOfRaw (if physical then path else logical)) with
  | .ok (name, node) =>
    if !node.isDirectory then return false
    let files := { state.kernel.files with workingDirectory := name }
    let kernel := { state.kernel with files }
    let directory := if physical then physicalDirectory kernel else logical
    set { state with kernel, directory }
    assign "OLDPWD".toList state.directory true
    assign "PWD".toList directory true
    return true
  | .error _ => return false

/-- Whether the directories of a search path are looked through for a path. -/
def isSearched (path : List Char) : Bool :=
  let first := path.takeWhile (· ≠ '/')
  path.head? ≠ some '/' && first ≠ ['.'] && first ≠ ['.', '.']

/-- Changes the working directory to the named one, to the home directory or to the last one. -/
def changeDirectory (arguments : List (List Char)) : Run Nat := do
  let (flags, operands) ← takeFlags "LP" arguments
  let physical := flags.getLast? = some 'P'
  let state ← get
  let (target, shows) := match operands with
    | [] => ((state.value? "HOME".toList).getD [], false)
    | ['-'] :: _ => ((state.value? "OLDPWD".toList).getD [], true)
    | path :: _ => (path, false)
  let bases :=
    if isSearched target then ((state.value? "CDPATH".toList).map (Text.pieces ':')).getD []
    else []
  let target := if target.isEmpty then ['.'] else target
  let candidates := bases.map fun base =>
    if base.isEmpty then (target, false) else (base ++ '/' :: target, true)
  let (path, isShown) :=
    (candidates.find? fun candidate =>
      state.kernel.files.isDirectory (textOfRaw candidate.1)).getD (target, false)
  if !(← enter physical path) then fail ("can't cd to ".toList ++ target)
  if shows || isShown then print ((← get).directory ++ ['\n'])
  return 0

/-- Shows the working directory. -/
def showDirectory (arguments : List (List Char)) : Run Nat := do
  let (flags, _) ← takeFlags "LP" arguments
  let state ← get
  print ((if flags.getLast? = some 'P' then physicalDirectory state.kernel else state.directory)
    ++ ['\n'])
  return 0

end CheckedBuild.Shell
