import CheckedBuild.Machine.FileSystem
import CheckedBuild.Machine.Signal

/-!
# The table of processes

Every process has an entry: who started it, what it holds open, what it does about signals, and
how it ended. An entry stays until the parent has looked at the ending. The entries of processes
that have ended stand behind the others, in the order in which they ended.
-/

namespace CheckedBuild.Machine

/-- What each process has for itself apart from its entry. -/
structure Circumstances where
  /-- Where relative paths start. -/
  directory : Name := []
  /-- The permissions that new nodes do not get. -/
  mask : Nat := 0o022
  /-- How much the process leaves to others. -/
  niceness : Int := 0
  /-- Why its output could not be written. -/
  failure : Option Refusal := none
  /-- Its output that has not been handed over yet, the last piece first. -/
  unwritten : List (List Char) := []
  unwrittenSize : Nat := 0

/-- A process in the table. -/
structure ProcessEntry where
  number : Nat
  parent : Nat
  /-- The number of the group of processes that signals reach together. -/
  group : Nat
  /-- The streams that it holds open. -/
  streams : List Nat := []
  /-- The signals that it takes no notice of. -/
  ignored : List Nat := []
  /-- The signals that it has an action for. -/
  caught : List Nat := []
  /-- The signals that have come and wait for their actions. -/
  pending : List Nat := []
  isStopped : Bool := false
  ending : Option Ending := none
  circumstances : Circumstances := {}

namespace ProcessEntry

/-- Whether a process has not ended. -/
def isAlive (entry : ProcessEntry) : Bool := entry.ending.isNone

/-- What a signal does to a process that lives. -/
inductive Effect where
  | nothing
  | waits
  | stops
  | continues
  | kills
deriving DecidableEq, Repr

/-- What a signal does to a process. -/
def effectOf (entry : ProcessEntry) (signal : Nat) : Effect :=
  if signal = 0 || !entry.isAlive then .nothing
  else if !Signal.isCatchable signal then if signal = 9 then .kills else .stops
  else if signal = 18 then .continues
  else if entry.caught.contains signal then .waits
  else if entry.ignored.contains signal || Signal.isHarmless signal then .nothing
  else if Signal.stops signal then .stops
  else .kills

end ProcessEntry

/-- The processes of a machine. -/
abbrev Table := List ProcessEntry

namespace Table

/-- The entry of a process. -/
def entry? (table : Table) (number : Nat) : Option ProcessEntry :=
  table.find? fun entry => entry.number == number

/-- Changes the entry of a process. -/
def change (table : Table) (number : Nat) (f : ProcessEntry → ProcessEntry) : Table :=
  table.map fun entry => if entry.number = number then f entry else entry

/-- The process that takes over those that are left alone. -/
def guardian : Nat := 1

/-- The table after the end of a process: those that it has started are left to the guardian, and
its entry stays only if somebody may look at it. -/
def finish (table : Table) (number : Nat) (ending : Ending) : Table :=
  let others := (table.filter (·.number != number)).map fun entry =>
    if entry.parent = number then { entry with parent := guardian } else entry
  let kept := others.filter fun entry => entry.isAlive || entry.parent != guardian
  match table.entry? number with
  | some entry =>
    if kept.any fun other => other.number == entry.parent && other.isAlive then
      kept ++ [{ entry with ending := some ending, streams := [], pending := [] }]
    else kept
  | none => kept

/-- Takes the entries of the processes out of the table that one has started and that have ended.
The result tells how they ended, in order. -/
def reap (table : Table) (parent : Nat) : List (Nat × Ending) × Table :=
  let isEnded (entry : ProcessEntry) : Bool := entry.parent == parent && !entry.isAlive
  let ended := (table.filter isEnded).filterMap fun entry =>
    entry.ending.map fun ending => (entry.number, ending)
  (ended, table.filter fun entry => !isEnded entry)

/-- The table after a signal has been sent to a process that is there. -/
def signal (table : Table) (number signal : Nat) : Table :=
  match table.entry? number with
  | none => table
  | some entry =>
    match entry.effectOf signal with
    | .nothing => table
    | .waits => table.change number fun entry =>
        { entry with pending := entry.pending ++ [signal] }
    | .stops => table.change number fun entry => { entry with isStopped := true }
    | .continues => table.change number fun entry =>
        { entry with
          isStopped := false
          pending := entry.pending ++ if entry.caught.contains signal then [signal] else [] }
    | .kills => table.finish number (.killed signal)

end Table

end CheckedBuild.Machine
