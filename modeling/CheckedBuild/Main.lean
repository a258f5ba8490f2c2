import CheckedBuild.Invocation
import CheckedBuild.Machine.World

/-!
# The command line

An invocation is carried out on a machine in memory, which starts out with the files below the
working directory and those beside the driver. What it writes to its two outputs is written, the
files it has changed are put back, and its result is the exit status.
-/

namespace CheckedBuild.Main

open Machine

/-- The contents of the files below some directories, under their absolute names. -/
def contentsBelow (directories : List String) : IO (List (String × Bytes)) := do
  let mut found := #[]
  for directory in directories do
    for path in ← (← IO.FS.realPath directory).walkDir do
      unless ← path.isDir do
        found := found.push (path.toString, (← IO.FS.readBinFile path).toList)
  return found.toList

/-- A script may be run; whether other files may be run is not known. -/
def modeOf (contents : Bytes) : Nat :=
  if contents.take 2 = [35, 33] then 0o755 else 0o644

/-- The absolute name of a path. -/
def nameOf (path : String) : Name :=
  ((Text.pieces '/' path.toList).filter (· ≠ [])).map String.ofList

/-- A file system that holds the given files. -/
def filesOf (directory : String) (contents : List (String × Bytes)) : FileSystem :=
  contents.foldl (fun files (path, bytes) => files.install path (.file (modeOf bytes) bytes))
    (freshFiles (nameOf directory))

/-- Reads a stream to its end. -/
partial def readToEnd (stream : IO.FS.Stream) (read : ByteArray) : IO ByteArray := do
  let more ← stream.read 65536
  if more.isEmpty then return read else readToEnd stream (read ++ more)

/-- Puts back the files that differ from what they were. -/
def putBack (before after : FileSystem) : IO Unit := do
  for (name, number) in after.names do
    match after.nodes[number]? with
    | some ⟨.file data, _, _⟩ =>
      let bytes := data.bytes
      unless ((before.node? name).map Node.bytes) == some bytes do
        IO.FS.writeBinFile ("/" ++ "/".intercalate name) ⟨bytes.toArray⟩
    | _ => continue

/-- Carries out the invocation with the given arguments. -/
def run (arguments : List String) : IO UInt32 := do
  let directory := (← IO.currentDir).toString
  let driver := (← IO.appPath).toString
  let beside := (Path.parent? driver.toList).map String.ofList
  let errors ← IO.getStderr
  let given : Variables :=
    { debug := ← IO.getEnv "DCC_DEBUG"
      colorizeOutput := ← IO.getEnv "DCC_COLORIZE_OUTPUT"
      helperDirectory := ← IO.getEnv "DCC_HELPER_DIR"
      path := ← IO.getEnv "PATH" }
  let environment := Environment.ofVariables driver (← errors.isTty) given
  let files := filesOf directory (← contentsBelow (directory :: beside.toList))
  let stdin ← IO.getStdin
  let input ← if ← stdin.isTty then pure ByteArray.empty else readToEnd stdin ByteArray.empty
  let names := ["HOME", "NO_COLOR", "CLICOLOR", "CLICOLOR_FORCE", "TERM", "CI"]
  let bindings := (← names.mapM fun name => do return (name, ← IO.getEnv name)).filterMap
    fun (name, value?) => value?.map fun value => (name, value)
  let computer : Computer :=
    { files, bindings, searchPath := environment.searchPath, input := input.toList
      logged := some environment.debug
      keepsControls := keepsControls (bindings.lookup ·) (← errors.isTty) }
  let execution :=
    (invoke files.exists? environment arguments).execute Computer.world computer
  let output ← IO.getStdout
  output.write ⟨execution.state.outputBytes.toArray⟩
  errors.write ⟨execution.state.errorBytes.toArray⟩
  putBack files execution.state.files
  return UInt32.ofNat (execution.result % 256).toNat

end CheckedBuild.Main

/-- The command line of the driver. -/
def main (arguments : List String) : IO UInt32 := CheckedBuild.Main.run arguments
