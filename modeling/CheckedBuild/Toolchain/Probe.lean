import CheckedBuild.Instrumentation.Plan
import CheckedBuild.Program.Basic
import CheckedBuild.Text.Quoted

/-!
# Finding out about host and toolchain

What later stages have to know is asked for once. A compiler that cannot be run or whose banner
holds no version ends the build; not to learn the version of the C library does not. Programs are
looked up in the driver's own directory, then in the directories of the system, then where the
inherited search path says.
-/

namespace CheckedBuild

/-- The directories of the system, separated by colons. -/
def standardDirectories : String := "/bin:/usr/bin:/usr/local/bin:/sbin:/usr/sbin"

/-- The search path of a driver that lies in `directory` and inherits a search path. -/
def searchPathFor (directory inherited : Option String) : String :=
  (match directory with
    | some directory => directory ++ ":"
    | none => "")
    ++ standardDirectories ++ ":" ++ inherited.getD ""

namespace Probe

/-- The command that makes a program print its banner. -/
def bannerOf (program : String) : Command := ⟨program, ["--version"]⟩

/-- The program that prints the banner of the C library. -/
def libraryProgram : String := "ldd"

/-- What is known about the C library. -/
def library : Program (Option LibraryVersion) := do
  match ← Program.capture (bannerOf libraryProgram) none with
  | .ok output =>
    let first := ((Text.lines output.text.toList).head?).getD []
    Program.log .debug ("libc version: " ++ String.ofList first)
    return LibraryVersion.parse? output.text
  | .error reason =>
    Program.log .debug (BuildError.launch libraryProgram reason).message
    return none

/-- The first of the paths that is a directory. -/
def firstDirectory : List String → Program (Option String)
  | [] => return none
  | path :: rest => do
    if ← Program.isDirectory path then return some path
    firstDirectory rest

/-- Finds out about a compiler whose versions keep their resources under `root`. -/
def toolchain (compiler : String) (width : PointerWidth) (withLibrary : Bool) (root : String) :
    Program (Except BuildError Toolchain) := do
  match ← Program.capture (bannerOf compiler) none with
  | .error reason =>
    Program.log .debug (BuildError.launch compiler reason).message
    return .error (.unknownVersion compiler)
  | .ok output =>
    Program.log .debug
      ("clang version: " ++ String.ofList (Text.trimEnd output.text.toList))
    match CompilerVersion.parse? output.text with
    | none => return .error (.unknownVersion compiler)
    | some version =>
      let library ← if withLibrary then library else pure none
      let directory ← firstDirectory (runtimeDirectories root version)
      return .ok ⟨version, library, width, directory⟩

/-- A path that may be missing, in words. -/
def describePath : Option String → String
  | some path => "Some(" ++ Text.quoted path ++ ")"
  | none => "None"

/-- A host in words. -/
def describe (host : Host) : String :=
  "HostInfo \x7b pointer_width: "
    ++ (match host.pointerWidth with
        | .bits32 => "Bits32"
        | .bits64 => "Bits64")
    ++ ", valgrind: " ++ describePath host.valgrind
    ++ ", alternate_compiler: " ++ describePath host.alternateCompiler ++ " \x7d"

/-- Finds out about the host; pointers have the given width. -/
def host (width : PointerWidth) (searchPath : String) : Program Host := do
  let valgrind ← Program.locate searchPath "valgrind"
  let alternate ← Program.locate searchPath "gcc"
  let host : Host := ⟨width, valgrind, alternate⟩
  Program.log .debug ("host: " ++ describe host)
  return host

end Probe

end CheckedBuild
