/-!
# Signals and the ends of processes

Signals have numbers, names and messages for the processes that they kill. A process ends with a
status or is killed by a signal. Statuses of tools are numbers in which a signal has a place above
all statuses.
-/

namespace CheckedBuild.Machine

/-- How a process ended. -/
inductive Ending where
  | exited (status : Nat)
  | killed (signal : Nat)
deriving DecidableEq, Repr

/-- The least status of a tool that stands for a signal instead. -/
def signalBase : Nat := 256

/-- How a tool ends that has a status. -/
def Ending.ofCode (code : Nat) : Ending :=
  if signalBase < code then .killed (code - signalBase) else .exited code

/-- The status of a tool that ends as another process has ended. -/
def Ending.code : Ending → Nat
  | .exited status => status % 256
  | .killed signal => signalBase + signal

/-- The status of an ended process as a shell reports it. -/
def Ending.status : Ending → Nat
  | .exited status => status % 256
  | .killed signal => 128 + signal

namespace Signal

/-- The names of the signals, the first one being that of signal 1. -/
def names : List String :=
  ["HUP", "INT", "QUIT", "ILL", "TRAP", "ABRT", "BUS", "FPE", "KILL", "USR1", "SEGV", "USR2",
   "PIPE", "ALRM", "TERM", "STKFLT", "CHLD", "CONT", "STOP", "TSTP", "TTIN", "TTOU", "URG", "XCPU",
   "XFSZ", "VTALRM", "PROF", "WINCH", "IO", "PWR", "SYS"]

/-- The name of a signal; zero stands for the end of a shell. -/
def name? (signal : Nat) : Option String :=
  match signal with
  | 0 => some "EXIT"
  | n + 1 => names[n]?

/-- The number of a signal. -/
def number? (name : String) : Option Nat :=
  if name = "EXIT" then some 0
  else
    let index := names.findIdx (· == name)
    if index < names.length then some (index + 1) else none

/-- The messages about killed processes, the first one being that of signal 1. Two signals pass
without a message. -/
def messages : List (Option String) :=
  [some "Hangup", none, some "Quit", some "Illegal instruction", some "Trace/breakpoint trap",
   some "Aborted", some "Bus error", some "Floating point exception", some "Killed",
   some "User defined signal 1", some "Segmentation fault", some "User defined signal 2", none,
   some "Alarm clock", some "Terminated", some "Stack fault", some "Child exited",
   some "Continued", some "Stopped (signal)", some "Stopped", some "Stopped (tty input)",
   some "Stopped (tty output)", some "Urgent I/O condition", some "CPU time limit exceeded",
   some "File size limit exceeded", some "Virtual timer expired",
   some "Profiling timer expired", some "Window changed", some "I/O possible",
   some "Power failure", some "Bad system call"]

/-- The message about a process that a signal killed. -/
def message? (signal : Nat) : Option String := (messages[signal - 1]?).join

/-- Whether a signal does nothing to a process that has no action for it. -/
def isHarmless (signal : Nat) : Bool := [17, 18, 23, 28].contains signal

/-- Whether a signal stops a process that has no action for it. -/
def stops (signal : Nat) : Bool := 19 ≤ signal && signal ≤ 22

/-- Whether a process may have an action for a signal. -/
def isCatchable (signal : Nat) : Bool := signal ≠ 9 && signal ≠ 19

end Signal

end CheckedBuild.Machine
