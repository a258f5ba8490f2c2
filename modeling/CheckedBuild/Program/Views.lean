import CheckedBuild.Program.Basic

/-!
# Views of an exchange

Of everything that passed between a program and its world, each view keeps one kind: the commands
that were run, the messages logged, the files asked for, and the texts shown or printed.
-/

namespace CheckedBuild

/-- A command that was run: whether its output was taken, and its input. -/
structure Call where
  command : Command
  captured : Bool
  input : Option String
deriving DecidableEq, Repr

namespace Request

/-- The command that a request runs. -/
def call? : Request → Option Call
  | .capture command input => some ⟨command, true, input⟩
  | .run command => some ⟨command, false, none⟩
  | _ => none

/-- The message that a request logs. -/
def logged? : Request → Option (Level × String)
  | .note (.log level message) => some (level, message)
  | _ => none

/-- The file that a request puts on record as asked for. -/
def access? : Request → Option Access
  | .note (.access access) => some access
  | _ => none

/-- The text that a request shows to the user. -/
def shown? : Request → Option String
  | .tell text => some text
  | _ => none

/-- The text that a request prints. -/
def printed? : Request → Option String
  | .print text => some text
  | _ => none

end Request

namespace Execution

variable {σ α : Type}

/-- The requests that were made, in order. -/
def requests (execution : Execution σ α) : List Request :=
  execution.exchanges.map (·.request)

/-- The commands that were run, in order. -/
def calls (execution : Execution σ α) : List Call :=
  execution.requests.filterMap Request.call?

/-- The messages that were logged, in order. -/
def logged (execution : Execution σ α) : List (Level × String) :=
  execution.requests.filterMap Request.logged?

/-- The files that were asked for, in order. -/
def accesses (execution : Execution σ α) : List Access :=
  execution.requests.filterMap Request.access?

/-- Everything that was shown to the user. -/
def shown (execution : Execution σ α) : String :=
  String.join (execution.requests.filterMap Request.shown?)

/-- Everything that was printed. -/
def printed (execution : Execution σ α) : String :=
  String.join (execution.requests.filterMap Request.printed?)

end Execution

end CheckedBuild
