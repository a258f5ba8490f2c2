/-!
# Log messages

How much of the log is shown depends on the debug level: at level 0 only warnings, at level 1
also the commands and the decisions about sources, above that everything. Control sequences in a
message are kept only where they are wanted: a terminal is asked, and so are the variables by
which users ask for colours or refuse them.
-/

namespace CheckedBuild

/-- How important a message is. -/
inductive Level where
  | warning
  | debug
  | trace
deriving DecidableEq, Repr

/-- The most detailed level shown at a debug level. -/
def Level.shownAt : Nat → Level
  | 0 => .warning
  | 1 => .debug
  | _ => .trace

/-- Greater for more detailed messages. -/
def Level.detail : Level → Nat
  | .warning => 0
  | .debug => 1
  | .trace => 2

/-- Whether a message is shown at a debug level. -/
def Level.isShown (level : Level) (debug : Nat) : Bool :=
  level.detail ≤ (Level.shownAt debug).detail

/-- Whether control sequences stay in the messages; `setting?` gives the variables of the
environment, and `terminal` says that the messages go to a terminal. A variable that refuses or
forces colours counts unless its value is empty, so that `0` forces them too. -/
def keepsControls (setting? : String → Option String) (terminal : Bool) : Bool :=
  if (setting? "NO_COLOR").any (· ≠ "") then false
  else if (setting? "CLICOLOR_FORCE").any (· ≠ "") then true
  else if setting? "CLICOLOR" = some "0" then false
  else
    terminal && ((setting? "TERM").any (· ≠ "dumb") || (setting? "CLICOLOR").isSome
      || (setting? "CI").isSome)

end CheckedBuild
