import CheckedBuild.Error
import CheckedBuild.Options.Setting
import CheckedBuild.Path.Basic

/-!
# From tokens to a resolved build

The tokens are read from left to right. Some compiler options take the token after them as their
value, and a value is never read as anything else. Driver options are consumed, all other tokens
are passed on; a few tokens decide the outcome at once.
-/

namespace CheckedBuild

/-- What the command line asks for. -/
inductive Resolution where
  | compile (config : Config)
  | version
  | help
  /-- Watch the errors that an instrumented program reports on standard input. -/
  | watch
deriving DecidableEq, Repr

/-- What the token before makes of the next one. -/
inductive Role where
  | free
  /-- The value of `-o`. -/
  | output
  /-- The value of another option. -/
  | value
deriving DecidableEq, Repr

/-- Options other than `-o` whose value is the next token. -/
def optionsWithValue : List String :=
  ["-I", "-L", "-l", "-D", "-U", "-include", "-isystem", "-iquote", "-idirafter", "-MF", "-MT",
   "-MQ", "-Xlinker", "-Xpreprocessor", "-Xassembler"]

/-- The role of the token after one that is read in the given role. -/
def Role.next (role : Role) (token : String) : Role :=
  match role with
  | .free =>
    if token = "-o" then .output
    else if token ∈ optionsWithValue then .value
    else .free
  | _ => .free

/-- A token that decides the outcome whatever follows. -/
def decisive? : String → Option Resolution
  | "-v" | "--version" => some .version
  | "--help" => some .help
  | "--watch-stdin-for-valgrind-errors" => some .watch
  | _ => none

/-- Letters compared without regard to the case of ASCII letters. -/
def lowerAscii (s : List Char) : List Char := s.map Char.toLower

/-- Whether the path has one of the extensions, in either case. -/
def hasExtension (extensions : List String) (token : String) : Bool :=
  match Path.extension? token.toList with
  | some extension => extensions.any fun e => lowerAscii extension = e.toList
  | none => false

/-- Whether the token names an existing C source. -/
def namesSource (exists? : String → Bool) (token : String) : Bool :=
  hasExtension ["c"] token && exists? token

/-- The list with `source` at its end, unless it is there already. -/
def addOnce (sources : List String) (source : String) : List String :=
  if source ∈ sources then sources else sources ++ [source]

/-- What a token that is passed on in the given role says about the build. -/
def Config.note (config : Config) (role : Role) (token : String) : Config :=
  match role with
  | .output => { config with output := some token }
  | .value => config
  | .free =>
    if token = "-o" then config
    else if token = "-c" then { config with compileOnly := true }
    else if token ∈ optionsWithValue then config
    else if "-".toList.isPrefixOf token.toList then config
    else if hasExtension ["c", "h"] token then
      { config with sources := addOnce config.sources token }
    else { config with otherInputs := true }

/-- The configuration after a token that is passed on in the given role. -/
def Config.pass (config : Config) (role : Role) (token : String) : Config :=
  { config.note role token with compilerArguments := config.compilerArguments ++ [token] }

/-- What a token does. -/
inductive Reading where
  | set (setting : Setting)
  | decide (resolution : Resolution)
  | pass
deriving DecidableEq, Repr

/-- What a token does in the given role: only a free one is an option of the driver. -/
def Role.read (role : Role) (token : String) : Reading :=
  match role with
  | .free =>
    match Setting.ofToken? token, decisive? token with
    | some setting, _ => .set setting
    | none, some resolution => .decide resolution
    | none, none => .pass
  | _ => .pass

/-- The source that a token would overwrite, `next` being the token after it. -/
def Role.overwritten? (role : Role) (exists? : String → Bool) (token : String)
    (next : Option String) : Option String :=
  if role = .free ∧ token = "-o" then next.filter (namesSource exists?) else none

/-- Reads the remaining tokens, the first of them in the given role. -/
def resolveFrom (exists? : String → Bool) (config : Config) (role : Role) :
    List String → Except BuildError Resolution
  | [] => .ok (.compile config)
  | token :: rest =>
    match role.read token with
    | .set setting => resolveFrom exists? (config.apply setting) role rest
    | .decide resolution => .ok resolution
    | .pass =>
      match role.overwritten? exists? token rest.head? with
      | some target => .error (.wouldOverwrite target)
      | none => resolveFrom exists? (config.pass role token) (role.next token) rest

/-- Resolves a command line, given which paths exist. -/
def resolve (exists? : String → Bool) (environment : Environment) (tokens : List String) :
    Except BuildError Resolution :=
  if tokens = [] then .error .usage
  else resolveFrom exists? (Config.default environment) .free tokens

/-- The tokens of a command line, without the program's name in front. -/
def tokensOf (arguments : List String) : List String := arguments.tail

end CheckedBuild
