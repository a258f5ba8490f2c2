/-!
# Errors

A build that cannot be carried out ends in one of these errors. A compiler that reports an error
is not among them: its status is passed on.
-/

namespace CheckedBuild

/-- A wrapper template that does not fit the fields it is filled with. -/
inductive TemplateError where
  | unknownPlaceholder (name : String)
  | unusedField (name : String)
deriving DecidableEq, Repr

/-- The error in words. -/
def TemplateError.message : TemplateError → String
  | .unknownPlaceholder name => "wrapper template uses unknown placeholder __DCC_" ++ name ++ "__"
  | .unusedField name => "wrapper template never uses __DCC_" ++ name ++ "__"

/-- Why a build cannot be carried out. -/
inductive BuildError where
  | usage
  | wouldOverwrite (target : String)
  | unknownVersion (compiler : String)
  | unsupported
  | launch (program reason : String)
  | template (error : TemplateError)
  | io (reason : String)
deriving DecidableEq, Repr

/-- How the driver is called. -/
def usage : String :=
  "Usage: dcc [--valgrind|--memory|--leak-check|--no-explanations|--no-shared-libasan"
    ++ "|--no-embed-source] [clang-arguments] <c-files>"

/-- The error in words. -/
def BuildError.message : BuildError → String
  | .usage => CheckedBuild.usage
  | .wouldOverwrite target => "will not overwrite " ++ target ++ " with machine code"
  | .unknownVersion compiler => "Can not get version information for '" ++ compiler ++ "'"
  | .unsupported => "uninitialized value checking not supported on 32-bit architectures"
  | .launch program reason => "failed to run " ++ program ++ ": " ++ reason
  | .template error => "internal error: " ++ error.message
  | .io reason => "I/O error: " ++ reason

/-- The exit status of a run that ends in an error. -/
def BuildError.exitStatus (_ : BuildError) : Int := 1

end CheckedBuild
