/-!
# What a build is asked to do

The environment gives defaults, the command line settles the rest. A configuration also keeps the
arguments that are passed on to the compiler, with the roles that some of them play.
-/

namespace CheckedBuild

/-- The runtime checker that a program is built for. -/
inductive Sanitizer where
  | address
  | memory
  | valgrind
deriving DecidableEq, Repr

/-- The name of a checker. -/
def Sanitizer.name : Sanitizer → String
  | .address => "address"
  | .memory => "memory"
  | .valgrind => "valgrind"

/-- How the user's `main` is caught, so that the wrapper runs around it. -/
inductive Interception where
  /-- The linker redirects calls of `main`. -/
  | linked
  /-- The user's `main` is compiled under another name. -/
  | renamed
  /-- The user's `main` runs untouched. -/
  | disabled
deriving DecidableEq, Repr

/-- Whether the checker's runtime is linked as a shared library. -/
inductive SharedRuntime where
  | automatic
  | on
  | off
deriving DecidableEq, Repr

/-- Settings taken from the surroundings and not from the command line. -/
structure Environment where
  debug : Nat
  colorize : Bool
  searchPath : String
  /-- Where the running program lies. -/
  driverPath : String
  /-- Where the helper scripts for the archive lie. -/
  helperDirectory : String
  /-- Where the compiler keeps one directory of resources for each of its versions. -/
  resourceRoot : String
deriving DecidableEq, Repr

/-- A fully resolved build. -/
structure Config where
  compiler : String
  sanitizer : Sanitizer
  leakCheck : Bool
  suppressions : String
  useAfterReturn : Bool
  interception : Interception
  embedSource : Bool
  sharedRuntime : SharedRuntime
  colorize : Bool
  debug : Nat
  explanations : Bool
  maxExplanations : Nat
  /-- Arguments for the compiler, in order. -/
  compilerArguments : List String
  /-- C sources and headers among them, each once, in order of first occurrence. -/
  sources : List String
  /-- Compile without linking, so without a wrapper. -/
  compileOnly : Bool
  /-- Some input is neither a source nor a header. -/
  otherInputs : Bool
  output : Option String
deriving DecidableEq, Repr

/-- The build before any token is read. -/
def Config.default (environment : Environment) : Config where
  compiler := "clang"
  sanitizer := .address
  leakCheck := false
  suppressions := "/dev/null"
  useAfterReturn := false
  interception := .linked
  embedSource := true
  sharedRuntime := .automatic
  colorize := environment.colorize
  debug := environment.debug
  explanations := true
  maxExplanations := 3
  compilerArguments := []
  sources := []
  compileOnly := false
  otherInputs := false
  output := none

end CheckedBuild
