import CheckedBuild.Log
import CheckedBuild.Text.Utf8

/-!
# The files a build may look at

A source tree answers two questions about a path: how large is the file, and what does it hold.
Both may fail, for a reason in words. Only finitely many paths can be read, so a search that
reads every path at most once comes to an end.
-/

namespace CheckedBuild

/-- What is answered about a path: how large the file is, and what it holds. -/
structure Files where
  size : String → Except String Nat
  read : String → Except String Bytes

/-- Answers about files that do not change while they are being asked for. -/
structure SourceTree extends Files where
  /-- Some list holds every path that can be read. -/
  finite : ∃ paths : List String, ∀ path bytes, read path = .ok bytes → path ∈ paths

namespace SourceTree

/-- A list of paths that holds all those that can be read. -/
noncomputable def readable (tree : SourceTree) : List String := tree.finite.choose

theorem mem_readable (tree : SourceTree) {path : String} {bytes : Bytes}
    (h : tree.read path = .ok bytes) : path ∈ tree.readable :=
  tree.finite.choose_spec path bytes h

/-- The tree without files. -/
def empty : SourceTree where
  size _ := .error "no such file"
  read _ := .error "no such file"
  finite := ⟨[], by simp⟩

end SourceTree

/-- A question that a source tree was asked. -/
inductive Access where
  | size (path : String)
  | read (path : String)
deriving DecidableEq, Repr

/-- What is put on record on the way. -/
inductive Note where
  | log (level : Level) (message : String)
  | access (access : Access)
deriving DecidableEq, Repr

end CheckedBuild
