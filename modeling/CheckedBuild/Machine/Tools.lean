import CheckedBuild.Machine.Tools.Awk
import CheckedBuild.Machine.Tools.Blocks
import CheckedBuild.Machine.Tools.Characters
import CheckedBuild.Machine.Tools.CommandLines
import CheckedBuild.Machine.Tools.Compare
import CheckedBuild.Machine.Tools.Compute
import CheckedBuild.Machine.Tools.Date
import CheckedBuild.Machine.Tools.Diff
import CheckedBuild.Machine.Tools.Copy
import CheckedBuild.Machine.Tools.Counting
import CheckedBuild.Machine.Tools.Digest
import CheckedBuild.Machine.Tools.Dump
import CheckedBuild.Machine.Tools.Encoding
import CheckedBuild.Machine.Tools.Ends
import CheckedBuild.Machine.Tools.Find
import CheckedBuild.Machine.Tools.Grep
import CheckedBuild.Machine.Tools.Gzip
import CheckedBuild.Machine.Tools.Identity
import CheckedBuild.Machine.Tools.Join
import CheckedBuild.Machine.Tools.Limits
import CheckedBuild.Machine.Tools.Lines
import CheckedBuild.Machine.Tools.Neighbours
import CheckedBuild.Machine.Tools.Links
import CheckedBuild.Machine.Tools.Runners
import CheckedBuild.Machine.Tools.Sed
import CheckedBuild.Machine.Tools.Sequence
import CheckedBuild.Machine.Tools.Sort
import CheckedBuild.Machine.Tools.Split
import CheckedBuild.Machine.Tools.Status
import CheckedBuild.Machine.Tools.Tar

/-!
# Installed tools

Every tool has a name under which it is installed. Most tools work on their own; some run other
programs and are told how that is done. A tool writes its output without looking. If the output
could not be written, that is noticed at the end: the tool says so, and its status shows it.
-/

namespace CheckedBuild.Machine.Tools

/-- How a tool ends when its output could not be written. -/
structure OutletFault where
  /-- What it says, each line without the name of the tool. -/
  lines : List String
  status : Nat := 1
  /-- The lines are told without the name of the tool. -/
  isBare : Bool := false

/-- The tools that only say that a full device could not be written. -/
def terseTools : List String :=
  ["wc", "du", "cksum", "sum", "md5sum", "sha1sum", "sha224sum", "sha256sum", "sha384sum",
   "sha512sum", "b2sum"]

/-- How a tool ends whose output was refused, if that matters to it. -/
def outletFault? (tool : String) (refusal : Refusal) : Option OutletFault :=
  let reason := refusal.complaint
  let isClosed := refusal = .badDescriptor
  let wordy := "write error: " ++ reason
  let terse := if isClosed then wordy else "write error"
  match tool with
  | "hostname" => none
  | "rev" => if isClosed then none else some { lines := [wordy] }
  | "cmp" => if isClosed then none else some { lines := ["standard output: " ++ reason], status := 2 }
  | "diff" => some { lines := ["standard output: " ++ reason], status := 2 }
  | "tee" => some { lines := ["'standard output': " ++ reason] }
  | "find" => some { lines := ["'standard output': " ++ reason, terse] }
  | "sort" => some
      { lines := ["fflush failed: 'standard output': " ++ reason, "write error"], status := 2 }
  | "sed" =>
    let action := if isClosed then "close" else "flush"
    some { lines := [s!"couldn't {action} stdout: {reason}"], status := 4 }
  | "mawk" => some
      { lines := [s!"close failed on file \"/dev/stdout\" ({reason})"], status := 2 }
  | "gzip" | "gunzip" | "zcat" => some { lines := ["", "gzip: stdout: " ++ reason], isBare := true }
  | "tar" => some { lines := ["stdout: write error"], status := 2 }
  | "ls" | "dir" | "vdir" | "grep" | "egrep" | "fgrep" | "printenv" =>
    some { lines := [wordy], status := 2 }
  | "env" | "nice" => some { lines := [wordy], status := 125 }
  | "expr" | "tty" => some { lines := [wordy], status := 3 }
  | _ => some { lines := [if terseTools.contains tool then terse else wordy] }

/-- Whether a tool looks at its output at the end even if it has written nothing. -/
def looksAtOutlet (tool : String) : Bool := tool = "sed" || tool = "mawk"

/-- Runs a tool and then looks at what has become of its output. -/
def minding (tool : String) (run : Process → Step Nat) (process : Process) : Step Nat := do
  modify fun kernel : Kernel =>
    { kernel with failure := none, unwritten := [], unwrittenSize := 0 }
  let status ← run process
  process.flush
  let kernel ← get
  let isClosed := (process.descriptors.lookup 1).isNone
  let refusal? := kernel.failure
    <|> if looksAtOutlet tool && isClosed then some .badDescriptor else none
  match refusal?.bind (outletFault? tool) with
  | none => return status
  | some fault =>
    let name := if looksAtOutlet tool then process.shortName else process.name
    fault.lines.forM fun line =>
      process.warn (if fault.isBare then line.toList else name ++ ": ".toList ++ line.toList)
    return fault.status

/-- The tools that work on their own, by their names. -/
def table : List (String × (Process → Step Nat)) :=
  [("arch", constant "x86_64" 0), ("base32", encodeAs encoding32), ("base64", encodeAs encoding64),
   ("basenc", basenc), ("basename", basename), ("cat", cat), ("chgrp", chown), ("chmod", chmod),
   ("chown", chown), ("cksum", cksum), ("cmp", cmp), ("comm", comm), ("cp", cp), ("cut", cut),
   ("date", date), ("dd", dd), ("diff", diff), ("dirname", dirname), ("du", du), ("echo", echo),
   ("egrep", grep), ("expand", expandTabs), ("expr", expr), ("factor", factor),
   ("false", fun _ => return 1), ("fgrep", grep), ("fold", fold), ("grep", grep),
   ("groups", groups), ("gunzip", gzip true false), ("gzip", gzip false false), ("head", head),
   ("hostid", constant "007f0100" 0), ("hostname", hostname), ("id", identity), ("install", install),
   ("join", join), ("link", link), ("ln", ln), ("logname", logname), ("ls", ls), ("mkdir", mkdir),
   ("mkfifo", mkfifo), ("mknod", mknod), ("mktemp", mktemp), ("mv", mv), ("nl", nl),
   ("nproc", nproc), ("od", od), ("paste", paste), ("printenv", printenv), ("printf", printf),
   ("pwd", pwd), ("readlink", readlink), ("realpath", realpath), ("rev", rev), ("rm", rm),
   ("rmdir", rmdir), ("seq", seq), ("sleep", sleep), ("sort", sort),
   ("split", split), ("stat", stat), ("sum", sum), ("sync", sync), ("tac", tac), ("tail", tail),
   ("tar", tar), ("tee", tee), ("touch", touch), ("tr", tr), ("true", fun _ => return 0),
   ("truncate", truncate), ("tty", tty), ("uname", uname), ("unexpand", unexpand), ("uniq", uniq),
   ("unlink", unlink), ("users", users), ("wc", wc), ("which", which), ("who", users),
   ("whoami", whoami), ("yes", yes), ("zcat", gzip true true)]
    ++ digestKinds.map fun (name, kind) => (name, digests kind)

/-- The tools that run programs, by their names. -/
def runners : List (String × (Starter → Process → Step Nat)) :=
  [("env", env), ("find", find), ("mawk", awk),
   ("nice", nice), ("nohup", nohup), ("sed", sed), ("setsid", setsid),
   ("stdbuf", stdbuf), ("timeout", timeout), ("xargs", xargs)]

/-- What a tool does. -/
def tool? (starter : Starter) (name : String) : Option (Process → Step Nat) :=
  (table.lookup name <|> (runners.lookup name).map fun run => run starter).map (minding name)

end CheckedBuild.Machine.Tools
