import CheckedBuild.Path.Basic
import CheckedBuild.Text.Character
import CheckedBuild.Text.Literal
import CheckedBuild.Text.Pieces

/-!
# Versions in banners

A compiler's version is the first text after `clang version ` that has the form of two or three
numbers with dots between; a C library's is the first digit with a dot and a number after it.
The numbers may be written in digits of any script, but only ASCII digits denote a value.
-/

namespace CheckedBuild

open Text

/-- A compiler's version: its text and its first two numbers. -/
structure CompilerVersion where
  full : String
  major : Nat
  minor : Nat
deriving DecidableEq, Repr

/-- A C library's version. -/
structure LibraryVersion where
  major : Nat
  minor : Nat
deriving DecidableEq, Repr

/-- Whether the first version is the second or a later one. -/
def versionAtLeast (major minor wantedMajor wantedMinor : Nat) : Bool :=
  wantedMajor < major || (wantedMajor == major && wantedMinor ≤ minor)

/-- The first result of `read?` on a tail of the text. -/
def firstTail? {α : Type} (read? : List Char → Option α) : List Char → Option α
  | [] => read? []
  | c :: rest =>
    match read? (c :: rest) with
    | some found => some found
    | none => firstTail? read? rest

/-- The longest non-empty run of digits at the start, and what follows it. -/
def takeNumber? (s : List Char) : Option (List Char × List Char) :=
  match s.takeWhile isDigit with
  | [] => none
  | digits => some (digits, s.dropWhile isDigit)

/-- A letter without its case, the long s being an s. -/
def foldCase (c : Char) : Char := if c = 'ſ' then 's' else c.toLower

/-- What follows `clang version `, in any case, at the start of the text. -/
def afterBanner? (s : List Char) : Option (List Char) :=
  let banner := "clang version ".toList
  if (s.take banner.length).map foldCase = banner then some (s.drop banner.length) else none

namespace CompilerVersion

/-- The text of a version and its first two numbers. -/
structure Spelling where
  text : List Char
  major : List Char
  minor : List Char
deriving DecidableEq, Repr

/-- Reads two numbers with a dot between, and a third if one follows after another dot. -/
def Spelling.read? (s : List Char) : Option Spelling := do
  let (major, afterMajor) ← takeNumber? s
  let (minor, afterMinor) ← after? ['.'] afterMajor >>= takeNumber?
  let patch := match after? ['.'] afterMinor >>= takeNumber? with
    | some (digits, _) => '.' :: digits
    | none => []
  some ⟨major ++ '.' :: minor ++ patch, major, minor⟩

/-- The spelling of the version in a banner. -/
def spelling? (banner : List Char) : Option Spelling :=
  firstTail? (fun s => afterBanner? s >>= Spelling.read?) banner

/-- The version in a banner, if its first two numbers are below `2 ^ 32`. -/
def parse? (banner : String) : Option CompilerVersion := do
  let spelling ← spelling? banner.toList
  let major ← word? spelling.major
  let minor ← word? spelling.minor
  some ⟨String.ofList spelling.text, major, minor⟩

/-- The version with the given three numbers. -/
def ofNumbers (major minor patch : Nat) : CompilerVersion :=
  ⟨toString major ++ "." ++ toString minor ++ "." ++ toString patch, major, minor⟩

/-- Whether the version is the given one or a later one. -/
def atLeast (version : CompilerVersion) (major minor : Nat) : Bool :=
  versionAtLeast version.major version.minor major minor

end CompilerVersion

namespace LibraryVersion

/-- Reads one digit, a dot and a number. -/
def read? : List Char → Option (List Char × List Char)
  | digit :: '.' :: rest =>
    if isDigit digit then (takeNumber? rest).map fun minor => ([digit], minor.1) else none
  | _ => none

/-- The version in a banner, if both of its numbers are below `2 ^ 32`. -/
def parse? (banner : String) : Option LibraryVersion := do
  let (major, minor) ← firstTail? read? banner.toList
  some ⟨← word? major, ← word? minor⟩

/-- Whether the version is the given one or a later one. -/
def atLeast (version : LibraryVersion) (major minor : Nat) : Bool :=
  versionAtLeast version.major version.minor major minor

end LibraryVersion

/-- The directory of a version's runtime libraries. -/
def runtimeDirectory (root name : String) : String :=
  Path.joinText (Path.joinText (Path.joinText root name) "lib") "linux"

/-- Where the checkers' runtime may lie: under the full version, then under its major number. -/
def runtimeDirectories (root : String) (version : CompilerVersion) : List String :=
  let full := runtimeDirectory root version.full
  let major := runtimeDirectory root (toString version.major)
  if Path.components full.toList = Path.components major.toList then [full] else [full, major]

end CheckedBuild
