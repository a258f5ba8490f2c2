import CheckedBuild.Build
import CheckedBuild.Options.Resolution
import CheckedBuild.Toolchain.Probe

/-!
# An invocation of the driver

An invocation takes its defaults from variables of the environment and resolves its arguments. It
then builds, prints what was asked for, or watches the errors of an instrumented program.
-/

namespace CheckedBuild

/-- The version of the driver. -/
def driverVersion : String := "0.1.0"

/-- The options of the driver in words. -/
def helpLines : List String :=
  ["",
   "  --memory                 check for uninitialized variable using MemorySanitizer",
   "  --leak-check             check for memory leaks, requires --valgrind to intercept errors",
   "  --no-explanations        do not add explanations to compile-time error messages",
   "  --no-embed-source        do not embed program source in binary",
   "  --no-shared-libasan      do not link the address sanitizer runtime as a shared library",
   "  --valgrind               check for uninitialized variables using Valgrind",
   "  --use-after-return       check for use of local variables after function returns",
   "  --wrap-main              intercept the user's main function with ld's -wrap option",
   "  --ifdef-main             use ifdef to replace user's main function rather than ld's -wrap "
     ++ "option",
   "  --no-wrap-main           do not intercept the user's main function",
   "  --c-compiler=COMPILER    compile with COMPILER instead of clang"]

/-- The help text. -/
def helpText : String := String.join (helpLines.map (· ++ "\n"))

/-- Where the compiler keeps its resources unless told otherwise. -/
def defaultResourceRoot : String := "/usr/lib/clang"

/-- The variables that an invocation looks at; a missing one is not set. -/
structure Variables where
  debug : Option String := none
  colorizeOutput : Option String := none
  helperDirectory : Option String := none
  path : Option String := none
deriving DecidableEq, Repr

/-- The defaults for a driver that lies at `driverPath`; `terminal` says that messages go to a
terminal. -/
def Environment.ofVariables (driverPath : String) (terminal : Bool) (given : Variables) :
    Environment :=
  let directory := (Path.parent? driverPath.toList).map String.ofList
  { debug := (given.debug >>= fun text => Text.signedWord? (Text.trim text.toList)).getD 0
    colorize := terminal || given.colorizeOutput.any (· ≠ "")
    searchPath := searchPathFor directory given.path
    driverPath := driverPath
    helperDirectory := given.helperDirectory.getD (directory.getD ".")
    resourceRoot := defaultResourceRoot }

/-- Watches the errors of an instrumented program, which come in on standard input. -/
def watchErrors (environment : Environment) : Program (Except BuildError Int) := do
  let script := Path.joinText environment.helperDirectory monitorScript
  if !(← Program.isFile script) then
    return .error (.io (script ++ " not found"))
  let command : Command := ⟨"python3", ["-E", script]⟩
  Program.log .debug command.line
  match ← Program.run command with
  | .ok status => return .ok status
  | .error reason => return .error (.launch command.program reason)

/-- Carries out what a command line asks for; the result is the exit status. -/
def Resolution.carryOut (resolution : Resolution) (environment : Environment) :
    Program (Except BuildError Int) := do
  match resolution with
  | .version =>
    Program.print ("dcc version " ++ driverVersion ++ "\n")
    return .ok 0
  | .help =>
    Program.print helpText
    return .ok 0
  | .watch => watchErrors environment
  | .compile config =>
    let host ← Probe.host .bits64 environment.searchPath
    let explainer ← Program.locate environment.searchPath explainerName
    Build.carryOut { config, environment, host, explainer }

/-- An invocation from its tokens to its exit status; an error is shown to the user. -/
def invoke (exists? : String → Bool) (environment : Environment) (tokens : List String) :
    Program Int := do
  let outcome ← match resolve exists? environment tokens with
    | .ok resolution => resolution.carryOut environment
    | .error error => pure (.error error)
  match outcome with
  | .ok status => return status
  | .error error =>
    Program.tell ("dcc: " ++ error.message ++ "\n")
    return error.exitStatus

end CheckedBuild
