import CheckedBuild.Machine.Tools.Arguments

/-!
# Operands of tools

Most operands are paths. Each one is dealt with on its own, and one that fails is reported and
makes the status a failure.
-/

namespace CheckedBuild.Machine.Tools

open Process

/-- A name in quotation marks. -/
def marked (s : List Char) : List Char := Quotation.always false s

/-- A line that ends in a line feed. -/
def closed (line : List Char) : List Char := line ++ ['\n']

/-- Says how to find out how the tool is used. -/
def advise (process : Process) : Step Unit :=
  process.warn ("Try '".toList ++ process.name ++ " --help' for more information.".toList)

/-- Reports a wrong use of the tool. -/
def misuse (process : Process) (message : List Char) (status : Nat) : Step Nat := do
  process.complain message
  advise process
  return status

/-- Reports that something cannot be done to a file; the status is a failure. -/
def cannot (process : Process) (what : String) (name : List Char) (refusal : Refusal) :
    Step Nat := do
  process.complain
    ("cannot ".toList ++ what.toList ++ ' ' :: marked name ++ ": ".toList
      ++ refusal.complaint.toList)
  return 1

/-- Reports that something to be done to a file failed; the status is a failure. -/
def failed (process : Process) (what : String) (name : List Char) (refusal : Refusal) :
    Step Nat := do
  process.complain
    ("failed to ".toList ++ what.toList ++ ' ' :: marked name ++ ": ".toList
      ++ refusal.complaint.toList)
  return 1

/-- Runs a step on each operand; the status is a failure if one of them is. -/
def onEach (names : List (List Char)) (step : List Char → Step Nat) : Step Nat :=
  names.foldlM (fun status name => do return max status (← step name)) 0

/-- Runs a step on each operand that gives a piece of the output, all of which is written at the
end; the status is a failure if one of them has none. -/
def collected (process : Process) (names : List (List Char))
    (step : List Char → Step (Option (List Char))) : Step Nat := do
  let pieces ← names.mapM step
  pieces.forM fun piece => process.say (piece.getD [])
  return if pieces.all Option.isSome then 0 else 1

/-- The node that a path leads to; a link at its end is gone through unless that is unwanted. -/
def nodeAt (name : List Char) (through : Bool := true) :
    Step (Except Refusal (Name × Node)) := do
  return (← get).files.find (textOfRaw name) through

/-- Whether a path leads to a directory. -/
def leadsToDirectory (name : List Char) : Step Bool := do
  return (← get).files.isDirectory (textOfRaw name)

/-- Changes the files of the kernel. -/
def changeFiles (change : FileSystem → FileSystem) : Step Unit :=
  modify fun kernel : Kernel => { kernel with files := change kernel.files }

/-- Changes the files of the kernel unless that is refused. -/
def tryFiles (change : FileSystem → Except Refusal FileSystem) : Step (Except Refusal Unit) :=
  modifyGet fun kernel : Kernel =>
    match change kernel.files with
    | .ok files => (.ok (), { kernel with files })
    | .error refusal => (.error refusal, kernel)

/-- A path without the slashes at its end, unless it is nothing but slashes. -/
def withoutEndSlashes (s : List Char) : List Char :=
  let short := (s.reverse.dropWhile (· = '/')).reverse
  if short.isEmpty then s.take 1 else short

/-- The last component of a path. -/
def lastComponent (s : List Char) : List Char :=
  let short := withoutEndSlashes s
  if short = ['/'] then short else (short.reverse.takeWhile (· ≠ '/')).reverse

/-- A path without its last component. -/
def leadingPart (s : List Char) : List Char :=
  let short := withoutEndSlashes s
  let front := (short.reverse.dropWhile (· ≠ '/')).reverse
  if short = ['/'] then short
  else if front.isEmpty then ['.']
  else withoutEndSlashes front

/-- A path in a directory. -/
def joined (directory name : List Char) : List Char :=
  if directory.getLast? = some '/' then directory ++ name else directory ++ '/' :: name

/-- An absolute name as a path. -/
def pathOf (name : Name) : List Char := '/' :: Text.joinWith ['/'] (name.map rawOf)

end CheckedBuild.Machine.Tools
