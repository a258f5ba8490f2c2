import CheckedBuild.Path.Basic

/-!
# Names of archive members

A file is stored under its path, and only if that path is relative, stays below the working
directory and is already in normal form, one leading `./` apart. So no two names denote one file
by their spelling, and unpacking an archive writes nowhere else.
-/

namespace CheckedBuild

namespace Path

open Text

/-- Takes one component onto the stack of those before it, the last one first. -/
def pushPart (stack : List (List Char)) (part : List Char) : List (List Char) :=
  if part = [] ∨ part = ['.'] then stack
  else if part = ['.', '.'] then
    match stack with
    | [] => [part]
    | top :: below => if top = ['.', '.'] then part :: stack else below
  else part :: stack

/-- The components that are left when each `..` has undone the name before it. -/
def normalParts (path : List Char) : List (List Char) :=
  ((pieces '/' path).foldl pushPart []).reverse

/-- The normal form: no empty component, no `.` unless alone, and `..` only at the start. -/
def normalize (path : List Char) : List Char :=
  if normalParts path = [] then ['.'] else joinWith ['/'] (normalParts path)

end Path

/-- Why a file is left out of the archive. -/
inductive Skip where
  | absolute
  | parentTraversal
  | notNormalized (normal : String)
  | tooLarge (size : Nat)
  | unreadable (reason : String)
deriving DecidableEq, Repr

/-- The reason in words. -/
def Skip.message : Skip → String
  | .absolute => "it has an absolute path"
  | .parentTraversal => "it contains .."
  | .notNormalized normal => "normalized path differs: " ++ normal
  | .tooLarge size => "it is " ++ toString size ++ " bytes"
  | .unreadable reason => reason

open CheckedBuild.Path CheckedBuild.Text in
/-- The name under which the file at `path` may be stored. -/
def memberName (path : String) : Except Skip String :=
  let p := path.toList
  let normal := normalize p
  if isAbsolute p then .error .absolute
  else if p ≠ normal ∧ p ≠ '.' :: '/' :: normal then
    .error (.notNormalized (String.ofList normal))
  else if ['.', '.'] ∈ normalParts p then .error .parentTraversal
  else .ok (String.ofList normal)

end CheckedBuild
