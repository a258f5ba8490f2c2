import CheckedBuild.Archive.Gzip
import CheckedBuild.Archive.Tar
import CheckedBuild.Embedding.Discovery
import CheckedBuild.Embedding.Minify

/-!
# The embedded archive

The archive holds the discovered sources in order and then the helper scripts that explain an
error at run time. A helper takes the place of a source of the same name.
-/

namespace CheckedBuild

/-- The members of an archive in order, each name once. -/
abbrev Members := List Discovery.Found

namespace Members

/-- Puts a member in, in the place of one with the same name or else at the end. -/
def put (members : Members) (name : String) (contents : Bytes) : Members :=
  if members.any (·.1 == name) then
    members.map fun member => if member.1 == name then (name, contents) else member
  else members ++ [(name, contents)]

/-- The names in order. -/
def names (members : Members) : List String := members.map (·.1)

/-- The contents of a member. -/
def get? (members : Members) (name : String) : Option Bytes := members.lookup name

/-- The packed archive. -/
def pack (members : Members) : Except String Bytes :=
  (Tar.stream members).map Gzip.pack

end Members

/-- The scripts that go into every archive. -/
def helperScripts : List String :=
  ["start_gdb.py", "drive_gdb.py", "watch_valgrind.py", "colors.py"]

/-- The script that watches a checker's error stream. -/
def monitorScript : String := "watch_valgrind.py"

/-- Adds the helper scripts that can be read from a directory, shrunk. -/
def addHelpers (tree : SourceTree) (directory : String) :
    List String → Members → Members × List Note
  | [], members => (members, [])
  | script :: rest, members =>
    let path := Path.joinText directory script
    match tree.read path with
    | .ok contents =>
      let (final, notes) :=
        addHelpers tree directory rest (members.put script (Minify.script contents))
      (final, .access (.read path) :: notes)
    | .error reason =>
      let (final, notes) := addHelpers tree directory rest members
      (final, .access (.read path)
        :: .log .debug ("helper " ++ path ++ " not embedded: " ++ reason) :: notes)

/-- The packed archive of the sources and the helpers in a directory. -/
def embed (tree : SourceTree) (directory : String) (sources : List String) :
    Except String Bytes × List Note :=
  let collected := Discovery.collect tree sources
  let (members, notes) := addHelpers tree directory helperScripts collected.found
  let summary := "embedding " ++ toString members.length ++ " files: "
    ++ " ".intercalate (Members.names members)
  (Members.pack members, collected.notes ++ notes ++ [.log .debug summary])

end CheckedBuild
