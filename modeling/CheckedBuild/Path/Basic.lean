import CheckedBuild.Text.Pieces

/-!
# Paths as text

A path is a text whose components are separated by slashes. Empty components and inner `.`
components are not seen; a leading `.` is. Nothing here looks at files.
-/

namespace CheckedBuild.Path

open Text

/-- What stands between the slashes of a path. -/
inductive Component where
  | root
  | current
  | parent
  | named (name : List Char)
deriving DecidableEq, Repr

/-- Whether the path starts at the root. -/
def isAbsolute (path : List Char) : Bool := path.head? == some '/'

/-- The component that a piece between slashes denotes, if it is seen at all. -/
def Component.ofPiece? (piece : List Char) : Option Component :=
  if piece = [] ∨ piece = ['.'] then none
  else if piece = ['.', '.'] then some .parent
  else some (.named piece)

/-- The components of a path in order. -/
def components (path : List Char) : List Component :=
  let ps := pieces '/' path
  let rest := ps.filterMap Component.ofPiece?
  if isAbsolute path then .root :: rest
  else if ps.head? = some ['.'] then .current :: rest
  else rest

/-- The text of a component other than the root. -/
def Component.text : Component → List Char
  | .root => []
  | .current => ['.']
  | .parent => ['.', '.']
  | .named name => name

/-- The path with the given components. -/
def ofComponents : List Component → List Char
  | .root :: rest => '/' :: joinWith ['/'] (rest.map Component.text)
  | components => joinWith ['/'] (components.map Component.text)

/-- The last component, if it is a name. -/
def fileName? (path : List Char) : Option (List Char) :=
  match (components path).getLast? with
  | some (.named name) => some name
  | _ => none

/-- What follows the last dot of a name, unless that dot comes first. -/
def afterLastDot? (name : List Char) : Option (List Char) :=
  match pieces '.' name with
  | [] | [_] | [[], _] => none
  | ps => ps.getLast?

/-- The extension of the file name. -/
def extension? (path : List Char) : Option (List Char) :=
  fileName? path >>= afterLastDot?

/-- The path without its last component. The root and the empty path have none to drop. -/
def parent? (path : List Char) : Option (List Char) :=
  match (components path).getLast? with
  | none | some .root => none
  | some _ => some (ofComponents (components path).dropLast)

/-- `path` as seen from the directory `base`. -/
def join (base path : List Char) : List Char :=
  if isAbsolute path then path
  else if base = [] ∨ base.getLast? = some '/' then base ++ path
  else base ++ '/' :: path

/-- Joining paths that are strings. -/
def joinText (base path : String) : String :=
  String.ofList (join base.toList path.toList)

end CheckedBuild.Path
