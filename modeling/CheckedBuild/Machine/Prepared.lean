import CheckedBuild.Machine.Locate
import CheckedBuild.Machine.Sources
import CheckedBuild.Program.Basic

/-!
# A world with prepared answers

Commands are not run: each one gets the next of a list of prepared answers, and after the last
one every command succeeds without a word. Sources come from a prepared list of files or from the
file system.
-/

namespace CheckedBuild.Machine

/-- A file of a prepared tree. Its size may be given apart from its contents, and asking for its
size or its contents may be refused. -/
structure PreparedFile where
  path : String
  contents : Bytes
  size : Option Nat := none
  refusesSize : Bool := false
  refusesRead : Bool := false

/-- The first prepared file with a path. -/
def preparedFile (files : List PreparedFile) (path : String) : Except String PreparedFile :=
  match files.find? (·.path == path) with
  | some file => .ok file
  | none => .error "no such file"

/-- What a prepared file answers when it is read. -/
def PreparedFile.read (file : PreparedFile) : Except String Bytes :=
  if file.refusesRead then .error "permission denied" else .ok file.contents

/-- What a prepared file answers when it is asked for its size. -/
def PreparedFile.askSize (file : PreparedFile) : Except String Nat :=
  if file.refusesSize then .error "permission denied"
  else .ok (file.size.getD file.contents.length)

/-- The tree of prepared files, of which the first with a path counts. -/
def preparedTree (files : List PreparedFile) : SourceTree where
  size path := preparedFile files path >>= PreparedFile.askSize
  read path := preparedFile files path >>= PreparedFile.read
  finite := by
    refine ⟨files.map (·.path), fun path bytes h => ?_⟩
    unfold preparedFile at h
    cases found : files.find? (·.path == path) with
    | none => simp [found, bind, Except.bind] at h
    | some file =>
      have same : file.path = path := by simpa using List.find?_some found
      exact List.mem_map.mpr ⟨file, List.mem_of_find?_eq_some found, same⟩

/-- A world with prepared answers. -/
structure Prepared where
  /-- The output of each command to come, or nothing for one that cannot be run. -/
  answers : List (Option Output)
  files : FileSystem
  /-- The tree to take sources from, if not the file system. -/
  tree : Option SourceTree

namespace Prepared

/-- Takes the answer for the next command. -/
def next (prepared : Prepared) : Except String Output × Prepared :=
  match prepared.answers with
  | [] => (.ok ⟨"", 0⟩, prepared)
  | some output :: rest => (.ok output, { prepared with answers := rest })
  | none :: rest => (.error "not found", { prepared with answers := rest })

/-- The answers of a prepared world. -/
def world : World Prepared where
  answer request prepared :=
    match request with
    | .capture .. => prepared.next
    | .run _ =>
      let (answer, after) := prepared.next
      (answer.map (·.status), after)
    | .isDirectory path => (prepared.files.isDirectory path, prepared)
    | .isFile path => (prepared.files.isFile path, prepared)
    | .locate searchPath program =>
      (prepared.files.locate (FileSystem.homeDirectory none) searchPath program, prepared)
    | .sources => (prepared.tree.getD prepared.files.sourceTree, prepared)
    | .save path text =>
      match prepared.files.write path (Utf8.bytesOf text) with
      | .ok files => (.ok (), { prepared with files })
      | .error refusal => (.error refusal.message, prepared)
    | .note _ => ((), prepared)
    | .tell _ => ((), prepared)
    | .print _ => ((), prepared)

end Prepared

end CheckedBuild.Machine
