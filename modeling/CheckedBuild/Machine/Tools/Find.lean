import CheckedBuild.Finding.Format
import CheckedBuild.Finding.Test
import CheckedBuild.Machine.Tools.Runners

/-!
# Finding files

Everything below some paths is looked at, directories before what is in them, and an expression
says what is done with it.
-/

namespace CheckedBuild.Machine.Tools

open Process
open CheckedBuild.Finding (Test Found)

/-- The state of a search. -/
structure Finding where
  status : Nat := 0
  pruned : Bool := false
  stopped : Bool := false
  /-- Paths for commands that are run once, the last one first. -/
  collected : List (List (List Char) × List Char) := []

/-- A step of a search. -/
abbrev Find := StateT Finding Step

/-- Runs a command; that a signal kills it is reported. -/
def runFor (starter : Starter) (process : Process) (command : List (List Char)) : Step Nat := do
  let code ← runCommand starter process marked command
  match Ending.ofCode code with
  | .killed signal =>
    process.complain (marked (command.headD []) ++ " terminated by signal ".toList
      ++ decimal signal)
  | .exited _ => pure ()
  return code

/-- Runs the command of an expression for a path, which takes the place of two braces. -/
def executeOn (starter : Starter) (process : Process) (command : List (List Char))
    (inDirectory : Bool) (found : Found) : Find Bool := do
  let path := if inDirectory then "./".toList ++ lastComponent found.path else found.path
  let command := command.map fun (s : List Char) =>
    replaced (s.length + 1) ['\x7b', '\x7d'] path s
  let before := (← getThe Kernel).files.workingDirectory
  if inDirectory then
    changeFiles fun files => { files with workingDirectory := found.place.dropLast }
  let status ← runFor starter process command
  changeFiles fun files => { files with workingDirectory := before }
  return status = 0

/-- Removes what has been found; a directory has to be empty. -/
def deleteFound (process : Process) (found : Found) : Find Bool := do
  let files := (← getThe Kernel).files
  if found.path = ['.'] then return true
  if found.node.isDirectory && !(files.entries found.place).isEmpty then
    let _ ← cannot process "delete" found.path .notEmpty
    modify fun finding => { finding with status := 1 }
    return false
  changeFiles fun files => files.remove found.place
  return true

/-- How long ago a node was changed, in units: those that have begun, or only the whole ones. -/
def ageOf (now changed unit : Nat) (begun : Bool) : Nat :=
  if begun then (now - changed + unit - 1) / unit else (now - changed) / unit

/-- The value of an expression for a file, with what it does. -/
def evaluateTest (starter : Starter) (process : Process) (found : Found) : Test → Find Bool
  | .always value => return value
  | .name pattern folds => return Shell.matchesPattern folds pattern (lastComponent found.path)
  | .path pattern folds => return Shell.matchesPattern folds pattern found.path
  | .regular expression folds =>
    return (Text.Regular.search expression folds found.path.toArray 0).isSome
  | .kind letters through => do
    let files := (← getThe Kernel).files
    let letter :=
      if through && found.node.isLink then
        let letter := found.targetLetter files
        if letter = 'N' || letter = 'L' then 'l' else letter
      else Finding.kindLetter found.node
    return letters.contains letter
  | .linkName pattern folds => do
    match found.node.content with
    | .link target => return Shell.matchesPattern folds pattern (rawOf target)
    | _ => return false
  | .isEmpty => do
    match found.node.content with
    | .directory => return ((← getThe Kernel).files.entries found.place).isEmpty
    | .file data => return data.size = 0
    | _ => return false
  | .isReadable => return true
  | .isExecutable => return found.node.isDirectory || found.node.mode &&& 0o111 != 0
  | .size comparison amount unit =>
    return comparison.holds amount ((found.node.size + unit - 1) / unit)
  | .links comparison amount => do
    return comparison.holds amount (linkCount (← getThe Kernel).files found.place found.node)
  | .number comparison amount => do
    return comparison.holds amount
      (((← getThe Kernel).files.number? found.place).getD 1 + 1000)
  | .owner comparison amount => return comparison.holds amount 0
  | .mode how bits => do
    let mode := found.node.mode
    return match how with
      | .exact => mode = bits
      | .allOf => mode &&& bits = bits
      | .anyOf => bits = 0 || mode &&& bits != 0
  | .newer time => return time < found.node.changed
  | .age comparison amount unit begun => do
    let now := (← getThe Kernel).files.now
    return comparison.holds amount (ageOf now found.node.changed unit begun)
  | .sameFile number => do
    return number.isSome && (← getThe Kernel).files.number? found.place = number
  | .print ending => do
    process.say (found.path ++ [ending])
    return true
  | .format format => do
    process.say (found.written (← getThe Kernel).files (format.length + 1) format)
    return true
  | .list => do
    process.say (found.line (← getThe Kernel).files)
    return true
  | .prune => do
    modify fun finding => { finding with pruned := true }
    return true
  | .delete => deleteFound process found
  | .quit => do
    modify fun finding => { finding with stopped := true }
    return true
  | .execute command inDirectory => executeOn starter process command inDirectory found
  | .ask command => do
    process.warnPlainly
      ("< ".toList ++ command.headD [] ++ " ... ".toList ++ found.path ++ " > ? ".toList)
    match process.descriptors.lookup 0 with
    | none => return false
    | some number =>
      let (line, _) ← takeLine pieceLimit number []
      if (rawOfBytes line).head?.any fun c => c = 'y' || c = 'Y' then
        executeOn starter process command false found
      else return false
  | .executeAll command => do
    modify fun finding =>
      { finding with collected := (command, found.path) :: finding.collected }
    return true
  | .not inside => do return !(← evaluateTest starter process found inside)
  | .both left right => do
    if ← evaluateTest starter process found left then evaluateTest starter process found right
    else return false
  | .either left right => do
    if ← evaluateTest starter process found left then return true
    else evaluateTest starter process found right
  | .sequence left right => do
    let _ ← evaluateTest starter process found left
    evaluateTest starter process found right

/-- How a search goes about. -/
structure Manner where
  least : Nat := 0
  most : Nat := nestingLimit
  /-- What is in a directory comes before it. -/
  reversed : Bool := false
  /-- Links are gone through, everywhere or where the search begins. -/
  follows : Bool := false
  followsFirst : Bool := false

/-- Looks at a path and at everything below it. -/
def visit (starter : Starter) (process : Process) (manner : Manner) (test : Test)
    (fuel level : Nat) (start path : List Char) (place : Name) : Find Unit := do
  match fuel with
  | 0 => return
  | fuel + 1 =>
    if (← get).stopped then return
    let files := (← getThe Kernel).files
    let follows := manner.follows || (level = 0 && manner.followsFirst)
    let found? := match files.node? place with
      | some node =>
        if follows && node.isLink then
          match files.find (textOfRaw (pathOf place)) with
          | .ok (place, node) => some (place, node)
          | .error _ => some (place, node)
        else some (place, node)
      | none => none
    match found? with
    | none => return
    | some (place, node) =>
      let look : Find Unit := do
        modify fun finding => { finding with pruned := false }
        if manner.least ≤ level then
          let _ ← evaluateTest starter process ⟨path, start, level, place, node⟩ test
      if !manner.reversed then look
      if level < manner.most && node.isDirectory && !(← get).pruned then
        let entries := ((← getThe Kernel).files.entries place).map (·.1)
        (entries.mergeSort fun a b => a ≤ b).forM fun entry =>
          visit starter process manner test fuel (level + 1) start (joined path (rawOf entry))
            (place ++ [entry])
      if manner.reversed && !(← get).stopped then look

/-- The options among the tests, and the tests. -/
def mannerOf (fuel : Nat) (manner : Manner) (arguments : List (List Char)) :
    Except (List Char) (Manner × List (List Char)) :=
  match fuel, arguments with
  | fuel + 1, first :: rest => do
    let word := String.ofList first
    if word = "-maxdepth" || word = "-mindepth" then
      match rest with
      | [] => throw ("missing argument to ".toList ++ Finding.quoted first)
      | value :: rest =>
        match Text.natural? value with
        | some n =>
          mannerOf fuel (if word = "-maxdepth" then { manner with most := n }
            else { manner with least := n }) rest
        | none =>
          throw ("Expected a positive decimal integer argument to ".toList ++ first
            ++ ", but got ".toList ++ marked value)
    else if word = "-depth" || word = "-d" then
      mannerOf fuel { manner with reversed := true } rest
    else
      let manner := if word = "-delete" then { manner with reversed := true }
        else if word = "-follow" then { manner with follows := true } else manner
      let (manner, others) ← mannerOf fuel manner rest
      return (manner, first :: others)
  | _, rest => return (manner, rest)

/-- The manner that the options in front of the paths ask for, and the other arguments. -/
def frontOptions (manner : Manner) : List (List Char) → Manner × List (List Char)
  | ['-', 'L'] :: rest => frontOptions { manner with follows := true } rest
  | ['-', 'H'] :: rest => frontOptions { manner with followsFirst := true } rest
  | ['-', 'P'] :: rest =>
    frontOptions { manner with follows := false, followsFirst := false } rest
  | rest => (manner, rest)

/-- Finds files. -/
def find (starter : Starter) (process : Process) : Step Nat := do
  let process := { process with name := process.shortName }
  let isTest (s : List Char) : Bool :=
    s.head? = some '-' && 1 < s.length || s = ['('] || s = ['!']
  let (manner, arguments) := frontOptions {} process.arguments
  let paths := arguments.takeWhile fun s => !isTest s
  let files := (← get).files
  let prepared := do
    let (manner, tests) ← mannerOf (arguments.length + 1) manner (arguments.drop paths.length)
    return (manner, ← Test.read? files tests)
  match prepared with
  | .error message =>
    process.complain message
    return 1
  | .ok (manner, test) =>
    let paths := if paths.isEmpty then [['.']] else paths
    let search : Find Unit := paths.forM fun path => do
      match (← getThe Kernel).files.find (textOfRaw path) false with
      | .ok (place, _) => visit starter process manner test nestingLimit 0 path path place
      | .error refusal =>
        process.complain (marked path ++ ": ".toList ++ refusal.complaint.toList)
        modify fun finding => { finding with status := 1 }
    let ((), finding) ← search.run {}
    let collected := finding.collected.reverse
    let commands := (collected.map (·.1)).eraseDups
    commands.foldlM (fun status command => do
      let found := (collected.filter (·.1 == command)).map (·.2)
      return max status (min 1 (← runFor starter process (command ++ found))))
      finding.status

end CheckedBuild.Machine.Tools
