import CheckedBuild.Machine.Process
import CheckedBuild.Shell.Expand

/-!
# Redirections

The words of all redirections of a command are expanded first. Then the descriptors are connected
one after the other; the first one that cannot be connected is reported, and the command does not
run.
-/

namespace CheckedBuild.Shell

open CheckedBuild.Machine

/-- A redirection after the expansion of its word. -/
structure Connection where
  descriptor : Nat
  target : Target
  text : List Char

/-- Expands the word of a redirection; that of a document is expanded when it is opened. -/
def expandRedirection (engine : Engine) (redirection : Redirection) : Run Connection := do
  let connection (text : List Char) : Connection :=
    ⟨redirection.descriptor, redirection.target, text⟩
  match redirection.target with
  | .document _ => return connection []
  | .copy =>
    match ← expandFields engine redirection.word with
    | text :: _ =>
      if text = ['-'] || (text.length = 1 && text.all Char.isDigit) then return connection text
    | [] => pure ()
    modify fun state => { state with line := state.sourceLine }
    fail "Syntax error: Bad fd number".toList
  | _ => return connection (← expandText engine .atStart redirection.word)

/-- How the shell words that something cannot be opened or made. -/
def refusalReason (missing : String) : Refusal → String
  | .notFound | .notDirectory => missing
  | refusal => refusal.complaint

/-- Opens a file. A named pipe is waited for until somebody opens its other end or a signal
comes. -/
def opened (failure missing : String) (text : List Char)
    (outcome : Kernel → Descriptors → Except Refusal (Nat × Kernel)) : Run Nat := do
  let refused (reason : String) : Run Nat :=
    fail (failure.toList ++ text ++ ": ".toList ++ reason.toList)
  let state ← get
  match outcome state.kernel state.descriptors with
  | .ok (number, kernel) =>
    set { state with kernel }
    if kernel.isAlone number then
      Strand.pause
        { isOver := fun kernel => !kernel.isAlone number || kernel.hasSignals state.self }
      if (← get).kernel.isAlone number then return ← refused "Interrupted system call"
    return number
  | .error refusal => refused (refusalReason missing refusal)

/-- Opens what a redirection names; nothing stands for a closed descriptor. -/
def openTarget (engine : Engine) (connection : Connection) : Run (Option Nat) := do
  let path := textOfRaw connection.text
  let read : Run (Option Nat) :=
    some <$> opened "cannot open " "No such file" connection.text
      fun kernel descriptors => kernel.openForReading descriptors path
  let write (access : Kernel.Access) : Run (Option Nat) :=
    some <$> opened "cannot create " "Directory nonexistent" connection.text
      fun kernel descriptors => kernel.openForWriting descriptors access path
  match connection.target with
  | .read => read
  | .write =>
    if (← get).isOn 'C' && (← get).kernel.files.isFile path then
      fail ("cannot create ".toList ++ connection.text ++ ": File exists".toList)
    write (.write false)
  | .overwrite => write (.write false)
  | .extend => write .append
  | .readWrite => write .update
  | .copy =>
    if connection.text = ['-'] then return none
    let descriptors := (← get).descriptors
    match (Text.natural? connection.text).bind fun n => descriptors.lookup n with
    | some number => return some number
    | none => fail (connection.text ++ ": Bad file descriptor".toList)
  | .document index =>
    let pieces ← expandParts engine false .nowhere false
      (((← get).documents[index]?).getD [])
    let text := unmarked (unsplit (← get).joint pieces)
    return some (← openStream (.source (bytesOfRaw text)))

/-- Connects descriptors; the result tells whether that went well. If not, the descriptors are as
before. -/
def connectAll (engine : Engine) (connections : List Connection) : Run Bool := do
  let before := (← get).descriptors
  try
    connections.forM fun connection => do
      let stream ← openTarget engine connection
      modify fun state =>
        state.holding (connect connection.descriptor stream state.descriptors) state.saved
    return true
  catch
    | .failure =>
      modify fun state => state.holding before state.saved
      return false
    | interrupt => throw interrupt

/-- Connects descriptors and holds on to the streams that they stood for. -/
def connectSaving (engine : Engine) (connections : List Connection) : Run Bool := do
  let state ← get
  let covered : Descriptors := state.descriptors.filter fun entry =>
    connections.any fun connection => connection.descriptor == entry.1
  set { state with saved := covered.streams ++ state.saved }
  if ← connectAll engine connections then return true
  modify fun after => after.holding state.descriptors state.saved
  return false

/-- Runs a step on redirected descriptors and puts them back afterwards. If they cannot be
connected the status is 2. -/
def withRedirections (engine : Engine) (redirections : List Redirection) (step : Run Nat) :
    Run Nat := do
  let connections ← redirections.mapM (expandRedirection engine)
  let before ← get
  if !(← connectSaving engine connections) then return 2
  eventually step (modify fun state => state.holding before.descriptors before.saved)

end CheckedBuild.Shell
