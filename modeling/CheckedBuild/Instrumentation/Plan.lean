import CheckedBuild.Error
import CheckedBuild.Options.Config
import CheckedBuild.Toolchain.Version

/-!
# Flags of an instrumented build

The configuration and what is known about the toolchain decide which flags are added to the
user's. Nothing is asked of the system here.
-/

namespace CheckedBuild

/-- The width of pointers. -/
inductive PointerWidth where
  | bits32
  | bits64
deriving DecidableEq, Repr

/-- What has to be known about the host before a compiler is run. -/
structure Host where
  pointerWidth : PointerWidth
  /-- Where the memory checker for uninstrumented programs lies. -/
  valgrind : Option String
  /-- Where the compiler for the cross-check lies. -/
  alternateCompiler : Option String
deriving DecidableEq, Repr

/-- What is known about the compiler and its libraries. -/
structure Toolchain where
  compiler : CompilerVersion
  /-- The version of the C library, where it matters. -/
  library : Option LibraryVersion
  pointerWidth : PointerWidth
  /-- The directory of the checkers' runtime for this version, if there is one. -/
  runtimeDirectory : Option String
deriving DecidableEq, Repr

/-- The flags for one build. -/
structure Plan where
  sanitizerFlags : List String
  styleFlags : List String
  /-- The flag that intercepts `main`, which has to come last. -/
  mainFlag : Option String
  /-- Undefined behaviour is not checked because the libraries cannot link the checks. -/
  libraryWorkaround : Bool
deriving DecidableEq, Repr

namespace Instrumentation

/-- The flags that check for undefined behaviour. -/
def undefinedFlags : List String :=
  ["-fsanitize=undefined", "-fno-sanitize-recover=undefined,integer"]

/-- Warnings and language options that both compilers understand. -/
def commonFlags : List String :=
  ["-Wall", "-Wno-unused", "-Wunused-variable", "-Wunused-value", "-Wno-unused-result",
   "-std=gnu11", "-g", "-lm"]

/-- Further options of the instrumenting compiler. -/
def compilerFlags : List String :=
  ["-Wunused-comparison", "-fno-omit-frame-pointer", "-fno-common", "-funwind-tables",
   "-fno-optimize-sibling-calls", "-Qunused-arguments"]

/-- The options for coloured messages. -/
def colorFlags : List String := ["-fcolor-diagnostics", "-fdiagnostics-color"]

/-- The options of a build that replaces one the host cannot carry out: where pointers have 32
bits, the checker for uninitialised memory gives way to the external one if that is installed. -/
def substitute (config : Config) (host : Host) : Except BuildError Config :=
  if config.sanitizer = .memory ∧ host.pointerWidth = .bits32 then
    if host.valgrind.isSome then .ok { config with sanitizer := .valgrind }
    else .error .unsupported
  else .ok config

/-- Whether the version of the C library matters. -/
def needsLibrary (config : Config) (width : PointerWidth) : Bool :=
  config.sanitizer = .address && width = .bits32

/-- Whether the C library and the compiler together cannot link the checks for undefined
behaviour. -/
def worksAround (config : Config) (toolchain : Toolchain) : Bool :=
  needsLibrary config toolchain.pointerWidth
    && toolchain.library.any (·.atLeast 2 27)
    && !toolchain.compiler.atLeast 6 0

/-- The flag of the checker itself. -/
def checkerFlags : Sanitizer → List String
  | .address => ["-fsanitize=address"]
  | .memory => ["-fsanitize=memory"]
  | .valgrind => []

/-- Whether the runtime of the address checker is linked as a shared library. -/
def sharesRuntime (config : Config) (version : CompilerVersion) : Bool :=
  match config.sharedRuntime with
  | .automatic => version.atLeast 7 0
  | .on => true
  | .off => false

/-- The flags that check for undefined behaviour in this build. -/
def undefinedFlagsFor (config : Config) (toolchain : Toolchain) : List String :=
  if config.sanitizer = .memory ∨ worksAround config toolchain then []
  else if toolchain.compiler.atLeast 3 6 then undefinedFlags
  else undefinedFlags.take 1

/-- The flags that link the checker's runtime in this build. -/
def runtimeFlags (config : Config) (toolchain : Toolchain) : List String :=
  if config.sanitizer = .address ∧ sharesRuntime config toolchain.compiler then
    match toolchain.runtimeDirectory with
    | some directory => ["-shared-libasan", "-Wl,-rpath," ++ directory]
    | none => []
  else []

/-- All flags for warnings, language and messages. -/
def styleFlags (colorize : Bool) : List String :=
  commonFlags ++ compilerFlags ++ if colorize then colorFlags else []

/-- The flag that intercepts `main`. -/
def mainFlag : Interception → Option String
  | .linked => some "-Wl,-wrap,main"
  | .renamed => some "-Dmain=__real_main"
  | .disabled => none

/-- The flags of the build. -/
def plan (config : Config) (toolchain : Toolchain) : Plan where
  sanitizerFlags :=
    checkerFlags config.sanitizer ++ undefinedFlagsFor config toolchain
      ++ runtimeFlags config toolchain
  styleFlags := styleFlags config.colorize
  mainFlag := mainFlag config.interception
  libraryWorkaround := worksAround config toolchain

/-- The flags of the cross-check, which come after the user's arguments. Only its messages are
wanted, so what it produces is thrown away. -/
def crossCheckFlags : List String :=
  commonFlags ++ ["-Wunused-but-set-variable", "-O", "-o", "/dev/null"]

end Instrumentation

end CheckedBuild
