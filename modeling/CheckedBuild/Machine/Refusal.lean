/-!
# Refusals

What the system says when it does not do what it is asked for. A refusal has a number, which the
driver shows, and words, which tools show as well.
-/

namespace CheckedBuild.Machine

/-- Why the system refuses something. -/
inductive Refusal where
  | notPermitted
  | notFound
  /-- There is nothing behind a device. -/
  | noDevice
  | tooManyArguments
  /-- A file that is neither a program nor names an interpreter. -/
  | notProgram
  | badDescriptor
  | denied
  | occupied
  | notDirectory
  | isDirectory
  | invalid
  | noSpace
  | nameTooLong
  | notEmpty
  | tooManyLevels
  /-- Nobody reads the pipe any more. -/
  | brokenPipe
  | nulInPath
  | nulInCommand
deriving DecidableEq, Repr

namespace Refusal

/-- The refusal in words. -/
def complaint : Refusal → String
  | notPermitted => "Operation not permitted"
  | notFound => "No such file or directory"
  | noDevice => "No such device or address"
  | tooManyArguments => "Argument list too long"
  | notProgram => "Exec format error"
  | badDescriptor => "Bad file descriptor"
  | denied => "Permission denied"
  | occupied => "File exists"
  | notDirectory => "Not a directory"
  | isDirectory => "Is a directory"
  | invalid => "Invalid argument"
  | noSpace => "No space left on device"
  | nameTooLong => "File name too long"
  | notEmpty => "Directory not empty"
  | tooManyLevels => "Too many levels of symbolic links"
  | brokenPipe => "Broken pipe"
  | nulInPath => "file name contained an unexpected NUL byte"
  | nulInCommand => "nul byte found in provided data"

/-- The number of the refusal, if it is the system that refuses. -/
def number? : Refusal → Option Nat
  | notPermitted => some 1
  | notFound => some 2
  | noDevice => some 6
  | tooManyArguments => some 7
  | notProgram => some 8
  | badDescriptor => some 9
  | denied => some 13
  | occupied => some 17
  | notDirectory => some 20
  | isDirectory => some 21
  | invalid => some 22
  | noSpace => some 28
  | brokenPipe => some 32
  | nameTooLong => some 36
  | notEmpty => some 39
  | tooManyLevels => some 40
  | nulInPath | nulInCommand => none

/-- The refusal in words with its number, as the driver reports it. -/
def message (refusal : Refusal) : String :=
  match refusal.number? with
  | some n => refusal.complaint ++ " (os error " ++ toString n ++ ")"
  | none => refusal.complaint

end Refusal

end CheckedBuild.Machine
