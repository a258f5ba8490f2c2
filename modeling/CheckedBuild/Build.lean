import CheckedBuild.Embedding.Archive
import CheckedBuild.Path.Mount
import CheckedBuild.Report
import CheckedBuild.Toolchain.Probe
import CheckedBuild.Wrapper.Render

/-!
# A build

The user's sources are compiled together with the wrapper, which the compiler reads as C from its
standard input. If the checks for undefined behaviour cannot be linked, one more attempt is made
without them. The messages are shown; after an attempt without messages another compiler is asked
for its opinion, which never changes the status. A build that only compiles runs one command and
needs no wrapper.
-/

namespace CheckedBuild.Build

open Instrumentation

/-- What a linker says when the checks for undefined behaviour cannot be linked. -/
def unlinked : List Char := "undefined reference to `__".toList

/-- The compiler for the cross-check. -/
def crossChecker : String := "gcc"

/-- What a compiler says about an option that it does not know. -/
def optionComplaint : List Char := "command line".toList

/-- The arguments that make a compiler read C from its standard input. -/
def marker : List String := ["-x", "c", "-"]

/-- Where the wrapper is left for inspection unless another path is given. -/
def defaultWrapperPath : String := "dcc_main_wrapper.c"

/-- What a build is carried out with. -/
structure Job where
  config : Config
  environment : Environment
  host : Host
  /-- Where the program that explains messages lies. -/
  explainer : Option String
  /-- Where the wrapper is left for inspection. -/
  wrapperPath : String := defaultWrapperPath
deriving DecidableEq, Repr

/-- The options of the build after a substitution that the host asks for. -/
def substituted (config : Config) (host : Host) : Program (Except BuildError Config) := do
  match substitute config host, host.valgrind with
  | .ok after, some valgrind =>
    if after ≠ config then
      Program.log .debug ("32-bit host, using " ++ valgrind ++ " instead of MemorySanitizer")
    return .ok after
  | outcome, _ => return outcome

/-- The command of a build that only compiles. -/
def compileCommand (config : Config) (plan : Plan) : Command :=
  ⟨config.compiler, plan.sanitizerFlags ++ plan.styleFlags ++ config.compilerArguments⟩

/-- The command that compiles and links with the wrapper: first the user's arguments, then the
marker, then the flags, the one that intercepts `main` after every input. -/
def primaryCommand (config : Config) (plan : Plan) : Command :=
  ⟨config.compiler,
    config.compilerArguments ++ marker ++ plan.sanitizerFlags ++ plan.styleFlags
      ++ plan.mainFlag.toList⟩

/-- The command of the cross-check. -/
def crossCheckCommand (config : Config) : Command :=
  ⟨crossChecker, config.compilerArguments ++ crossCheckFlags⟩

/-- The command line for compiling a wrapper that was left at `path`. -/
def wrapperCommandLine (command : Command) (path : String) : String :=
  String.ofList (Text.replaceAll "-x c -".toList path.toList command.line.toList)

/-- The source of the wrapper for a build. -/
def wrapper (job : Job) (config : Config) (toolchain : Toolchain) :
    Program (Except BuildError String) := do
  let archive ←
    if config.embedSource then
      let directory := job.environment.helperDirectory
      let tree ← Program.sources
      let (packed, notes) := embed tree directory config.sources
      Program.record notes
      pure (packed.map some)
    else pure (.ok none)
  match archive with
  | .error reason => return .error (.io reason)
  | .ok archive =>
    let values : Wrapper.Values :=
      { config, major := toolchain.compiler.major, minor := toolchain.compiler.minor
        driverPath := Path.fromHome job.environment.driverPath, archive }
    return (Wrapper.source values).mapError .template

/-- Leaves the wrapper for inspection, with the command that compiles it. -/
def leaveWrapper (path : String) (command : Command) (source : String) : Program Unit := do
  Program.log .debug ("Leaving main_wrapper in " ++ path ++ " compile with this command:")
  Program.log .debug (wrapperCommandLine command path)
  match ← Program.save path source with
  | .ok () => return
  | .error reason => Program.log .debug ("could not write " ++ path ++ ": " ++ reason)

/-- Asks the other compiler for its opinion and shows it, unless it complains about an option. -/
def crossCheck (job : Job) (config : Config) : Program (Except BuildError Unit) := do
  if job.host.alternateCompiler.isNone
      || Text.occursIn crossChecker.toList config.compiler.toList || config.otherInputs then
    return .ok ()
  let command := crossCheckCommand config
  Program.log .debug "compiling with gcc for extra checking"
  Program.log .debug command.line
  match ← Program.capture command none with
  | .error reason => return .error (.launch command.program reason)
  | .ok output =>
    if output.text ≠ "" && !Text.occursIn optionComplaint output.text.toList then
      report job.explainer config output.text
    return .ok ()

/-- Shows what an attempt left behind, and ends the build with its status. -/
def conclude (job : Job) (config : Config) (output : Output) :
    Program (Except BuildError Int) := do
  if output.text ≠ "" then
    report job.explainer config output.text
    return .ok output.status
  else if !output.succeeded then
    return .ok output.status
  else
    match ← crossCheck job config with
    | .ok () => return .ok 0
    | .error error => return .error error

/-- Compiles with the wrapper, once more if the checks for undefined behaviour cannot be linked. -/
def compile (job : Job) (config : Config) (command : Command) (source : String) :
    Program (Except BuildError Int) := do
  match ← Program.capture command (some source) with
  | .error reason => return .error (.launch command.program reason)
  | .ok output =>
    if Text.occursIn unlinked output.text.toList then
      let again := command.without undefinedFlags
      Program.log .debug
        ("undefined reference to runtime helper, recompiling: " ++ again.line)
      match ← Program.capture again (some source) with
      | .error reason => return .error (.launch again.program reason)
      | .ok output => conclude job config output
    else conclude job config output

/-- Compiles without linking. -/
def compileOnly (command : Command) : Program (Except BuildError Int) := do
  Program.log .debug ("incremental compilation, running: " ++ command.line)
  match ← Program.run command with
  | .ok status => return .ok status
  | .error reason => return .error (.launch command.program reason)

/-- The build once its toolchain is known. -/
def withToolchain (job : Job) (config : Config) (toolchain : Toolchain) :
    Program (Except BuildError Int) := do
  let plan := plan config toolchain
  if plan.libraryWorkaround then
    Program.log .warning
      "incompatible clang libc versions, disabling error detection by sanitizers"
  if config.compileOnly then compileOnly (compileCommand config plan)
  else
    match ← wrapper job config toolchain with
    | .error error => return .error error
    | .ok source =>
      let command := primaryCommand config plan
      Program.log .debug command.line
      if 1 < config.debug then leaveWrapper job.wrapperPath command source
      compile job config command source

/-- Carries out a build; the result is the exit status. -/
def carryOut (job : Job) : Program (Except BuildError Int) := do
  match ← substituted job.config job.host with
  | .error error => return .error error
  | .ok config =>
    let width := job.host.pointerWidth
    match ← Probe.toolchain config.compiler width (needsLibrary config width)
        job.environment.resourceRoot with
    | .error error => return .error error
    | .ok toolchain => withToolchain job config toolchain

end CheckedBuild.Build
