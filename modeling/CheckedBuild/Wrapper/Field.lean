import CheckedBuild.Archive.Listing
import CheckedBuild.Options.Config
import CheckedBuild.Text.Literal

/-!
# What the wrapper depends on

The wrapper is filled with one value per field. The values come from the resolved configuration,
the version of the compiler, the path of the driver and the archive of sources, if there is one.
-/

namespace CheckedBuild.Wrapper

open Text

/-- The places of the wrapper that are filled in. -/
inductive Field where
  | path
  | sanitizer
  | sanitizerIsAddress
  | sanitizerIsMemory
  | sanitizerIsValgrind
  | leakCheckYesNo
  | leakCheck
  | suppressionsFile
  | stackUseAfterReturn
  | noWrapMain
  | mainSymbol
  | compilerMajor
  | compilerMinor
  | embedSource
  | embeddedArchive
  | monitor
deriving DecidableEq, Repr

namespace Field

/-- All fields in their order of declaration. -/
def all : List Field :=
  [path, sanitizer, sanitizerIsAddress, sanitizerIsMemory, sanitizerIsValgrind, leakCheckYesNo,
   leakCheck, suppressionsFile, stackUseAfterReturn, noWrapMain, mainSymbol, compilerMajor,
   compilerMinor, embedSource, embeddedArchive, monitor]

/-- The name of a field in its placeholder. -/
def name : Field → String
  | path => "PATH"
  | sanitizer => "SANITIZER"
  | sanitizerIsAddress => "SANITIZER_IS_ADDRESS"
  | sanitizerIsMemory => "SANITIZER_IS_MEMORY"
  | sanitizerIsValgrind => "SANITIZER_IS_VALGRIND"
  | leakCheckYesNo => "LEAK_CHECK_YES_NO"
  | leakCheck => "LEAK_CHECK_1_0"
  | suppressionsFile => "SUPPRESSIONS_FILE"
  | stackUseAfterReturn => "STACK_USE_AFTER_RETURN"
  | noWrapMain => "NO_WRAP_MAIN"
  | mainSymbol => "MAIN_SYMBOL"
  | compilerMajor => "CLANG_VERSION_MAJOR"
  | compilerMinor => "CLANG_VERSION_MINOR"
  | embedSource => "EMBED_SOURCE"
  | embeddedArchive => "EMBEDDED_ARCHIVE"
  | monitor => "MONITOR_VALGRIND"

/-- The field with the given name. -/
def ofName? (name : List Char) : Option Field :=
  all.find? fun field => field.name.toList == name

theorem mem_all (field : Field) : field ∈ all := by
  cases field <;> decide

theorem ofName?_name (field : Field) : ofName? field.name.toList = some field := by
  cases field <;> decide

theorem ofName?_eq_some_iff {name : List Char} {field : Field} :
    ofName? name = some field ↔ name = field.name.toList := by
  constructor
  · intro found
    have same := List.find?_some found
    exact (beq_iff_eq.mp same).symm
  · rintro rfl
    exact ofName?_name field

end Field

/-- What the fields are computed from. -/
structure Values where
  config : Config
  /-- The first two numbers of the compiler's version. -/
  major : Nat
  minor : Nat
  /-- The path under which the program calls the driver. -/
  driverPath : String
  /-- The packed sources, if they are embedded. -/
  archive : Option Bytes

/-- A truth value for the preprocessor. -/
def flag (on : Bool) : List Char := if on then ['1'] else ['0']

/-- The name under which the wrapper defines its main function. -/
def mainSymbol : Interception → String
  | .renamed => "main"
  | .linked | .disabled => "__wrap_main"

/-- The shell command, as it stands in a literal, that watches a checker's error stream. It
unpacks the monitor from the archive on its standard input, or else calls the driver. -/
def monitorCommand (values : Values) : List Char :=
  match values.archive with
  | some bytes =>
    "python3 -E -c \\\"import os,sys,tarfile,tempfile\\n\\\n".toList
      ++ "with tempfile.TemporaryDirectory() as temp_dir:\\n\\\n".toList
      ++ "    tarfile.open(fileobj=sys.stdin.buffer, bufsize=".toList
      ++ Nat.toDigits 10 bytes.length
      ++ ", mode='r|gz').extractall(temp_dir)\\n\\\n".toList
      ++ "    os.chdir(temp_dir)\\n\\\n".toList
      ++ "    exec(open('watch_valgrind.py').read())\\n\\\n\\\"".toList
  | none => literal values.driverPath.toList ++ " --watch-stdin-for-valgrind-errors".toList

/-- The text that a field is filled with. -/
def Values.value (values : Values) : Field → List Char
  | .path => literal values.driverPath.toList
  | .sanitizer => values.config.sanitizer.name.toList
  | .sanitizerIsAddress => flag (values.config.sanitizer = .address)
  | .sanitizerIsMemory => flag (values.config.sanitizer = .memory)
  | .sanitizerIsValgrind => flag (values.config.sanitizer = .valgrind)
  | .leakCheckYesNo => (if values.config.leakCheck then "yes" else "no").toList
  | .leakCheck => flag values.config.leakCheck
  | .suppressionsFile => literal values.config.suppressions.toList
  | .stackUseAfterReturn => flag values.config.useAfterReturn
  | .noWrapMain => flag (values.config.interception = .disabled)
  | .mainSymbol => (mainSymbol values.config.interception).toList
  | .compilerMajor => Nat.toDigits 10 values.major
  | .compilerMinor => Nat.toDigits 10 values.minor
  | .embedSource => flag values.archive.isSome
  | .embeddedArchive => (values.archive.map Archive.listing).getD []
  | .monitor => monitorCommand values

end CheckedBuild.Wrapper
