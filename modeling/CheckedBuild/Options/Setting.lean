import CheckedBuild.Options.Config
import CheckedBuild.Text.Pieces

/-!
# Options of the driver itself

A token either is one of these options or belongs to the compiler. An option sets one field, and
a later option for the same field wins.
-/

namespace CheckedBuild

/-- What one option of the driver sets. -/
inductive Setting where
  | sanitizer (sanitizer : Sanitizer)
  | leakCheck
  | suppressions (path : String)
  | explanations (on : Bool)
  | sharedRuntime (choice : SharedRuntime)
  | useAfterReturn
  | embedSource (on : Bool)
  | interception (interception : Interception)
  | compiler (name : String)
  | colorize (on : Bool)
deriving DecidableEq, Repr

namespace Setting

/-- The options that are a whole token. -/
def named : List (String × Setting) :=
  [("--memory", sanitizer .memory),
   ("-u", sanitizer .memory),
   ("--undefined", sanitizer .memory),
   ("--uninitialized", sanitizer .memory),
   ("--uninitialised", sanitizer .memory),
   ("-fsanitize=memory", sanitizer .memory),
   ("--valgrind", sanitizer .valgrind),
   ("--leak-check", leakCheck),
   ("--leakcheck", leakCheck),
   ("--explanations", explanations true),
   ("--no-explanations", explanations false),
   ("--shared-libasan", sharedRuntime .on),
   ("-shared-libasan", sharedRuntime .on),
   ("--no-shared-libasan", sharedRuntime .off),
   ("--use-after-return", useAfterReturn),
   ("--embed-source", embedSource true),
   ("--no-embed-source", embedSource false),
   ("--wrap-main", interception .linked),
   ("--ifdef-main", interception .renamed),
   ("--no-wrap-main", interception .disabled),
   ("-fcolor-diagnostics", colorize true),
   ("-fno-color-diagnostics", colorize false)]

/-- What follows `option` in `token`. -/
def valueOf? (option token : String) : Option String :=
  (Text.after? option.toList token.toList).map String.ofList

/-- The setting that a token stands for. -/
def ofToken? (token : String) : Option Setting :=
  named.lookup token
    <|> (valueOf? "--suppressions=" token).map suppressions
    <|> (valueOf? "--c-compiler=" token).map compiler

end Setting

/-- The configuration with one setting replaced. -/
def Config.apply (config : Config) : Setting → Config
  | .sanitizer sanitizer => { config with sanitizer }
  | .leakCheck => { config with leakCheck := true }
  | .suppressions path => { config with suppressions := path }
  | .explanations on => { config with explanations := on }
  | .sharedRuntime choice => { config with sharedRuntime := choice }
  | .useAfterReturn => { config with useAfterReturn := true }
  | .embedSource on => { config with embedSource := on }
  | .interception interception => { config with interception }
  | .compiler name => { config with compiler := name }
  | .colorize on => { config with colorize := on }

/-- A token list that resolves to the configuration again. -/
def Config.arguments (config : Config) : List String :=
  ["--c-compiler=" ++ config.compiler]
    ++ (match config.sanitizer with
        | .address => []
        | .memory => ["--memory"]
        | .valgrind => ["--valgrind"])
    ++ (if config.leakCheck then ["--leak-check"] else [])
    ++ ["--suppressions=" ++ config.suppressions]
    ++ (if config.useAfterReturn then ["--use-after-return"] else [])
    ++ [match config.interception with
        | .linked => "--wrap-main"
        | .renamed => "--ifdef-main"
        | .disabled => "--no-wrap-main"]
    ++ (match config.sharedRuntime with
        | .automatic => []
        | .on => ["--shared-libasan"]
        | .off => ["--no-shared-libasan"])
    ++ [if config.embedSource then "--embed-source" else "--no-embed-source",
        if config.explanations then "--explanations" else "--no-explanations",
        if config.colorize then "-fcolor-diagnostics" else "-fno-color-diagnostics"]
    ++ config.compilerArguments

end CheckedBuild
