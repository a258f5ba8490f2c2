import CheckedBuild.Machine.Locate
import CheckedBuild.Proofs.Text.Lines
import CheckedBuild.Toolchain.Probe

/-!
# Directories of the driver's search path

The search path is put together as a text and taken apart at its colons when a program is looked up.
What comes out is the driver's own directory, the directories of the system and those that were
inherited, in this order. Where nothing is inherited the colon before it is written all the same, so
that one more directory comes last: the empty one, which stands for the working directory.
-/

namespace CheckedBuild

open Machine Machine.FileSystem

/-- The directories of a search path on both sides of a colon are those of the whole. -/
theorem directoriesOf_append (first second : String) :
    directoriesOf (first ++ ":" ++ second) = directoriesOf first ++ directoriesOf second := by
  have whole : (first ++ ":" ++ second).toList = first.toList ++ ':' :: second.toList := by simp
  rw [directoriesOf, whole, Text.pieces_append_cons, List.map_append]
  rfl

/-- A directory without a colon is a search path of its own. -/
theorem directoriesOf_of_whole {directory : String} (whole : ':' ∉ directory.toList) :
    directoriesOf directory = [directory] := by
  rw [directoriesOf, Text.pieces_of_notMem whole, List.map_singleton, String.ofList_toList]

/-- The directories of the system, one by one. -/
def systemDirectories : List String := ["/bin", "/usr/bin", "/usr/local/bin", "/sbin", "/usr/sbin"]

theorem directoriesOf_standardDirectories :
    directoriesOf standardDirectories = systemDirectories := by decide

theorem searchPathFor_some (directory : String) (inherited : Option String) :
    searchPathFor (some directory) inherited
      = directory ++ ":" ++ searchPathFor none inherited := by
  simp [searchPathFor, String.append_assoc]

theorem directoriesOf_searchPathFor_none (inherited : Option String) :
    directoriesOf (searchPathFor none inherited)
      = systemDirectories ++ directoriesOf (inherited.getD "") := by
  rw [← directoriesOf_standardDirectories, ← directoriesOf_append]
  simp [searchPathFor]

/-- An empty directory is the working directory: a program that may be run there is found, unless
another one is found before it. -/
theorem isSome_locate_of_empty {files : FileSystem} {home searchPath program : String}
    (empty : "" ∈ directoriesOf searchPath)
    (plain : ¬ 1 < (Path.components program.toList).length)
    (runs : files.leadsTo Node.isExecutable
      (Path.joinText ("/" ++ "/".intercalate files.workingDirectory) program) = true) :
    (files.locate home searchPath program).isSome = true := by
  have here : files.placeOf home "" = "/" ++ "/".intercalate files.workingDirectory := by
    simp [placeOf, expandHome, absolute, Path.components, Path.isAbsolute, Text.pieces,
      Path.Component.ofPiece?]
  rw [locate, if_neg plain, List.find?_isSome]
  exact ⟨_, List.mem_map_of_mem empty, here ▸ runs⟩

/-- A search path is taken apart into the driver's own directory, those of the system and those that
were inherited; an inherited path that is missing counts as an empty one. So the working directory is
looked into if what was inherited has an empty directory, or if nothing was inherited. -/
theorem directoriesOf_searchPathFor {directory : Option String} (inherited : Option String)
    (proper : ∀ own ∈ directory, own ≠ "" ∧ ':' ∉ own.toList) :
    let directories := directoriesOf (searchPathFor directory inherited)
    directories = directory.toList ++ systemDirectories ++ inherited.elim [""] directoriesOf
      ∧ ("" ∈ directories ↔
        inherited = none ∨ ∃ path, inherited = some path ∧ "" ∈ directoriesOf path)
      ∧ (inherited = none → ∀ (files : FileSystem) (home program : String),
        ¬ 1 < (Path.components program.toList).length →
        files.leadsTo Node.isExecutable
          (Path.joinText ("/" ++ "/".intercalate files.workingDirectory) program) = true →
        (files.locate home (searchPathFor directory inherited) program).isSome = true) := by
  intro directories
  have behind : directoriesOf (inherited.getD "") = inherited.elim [""] directoriesOf := by
    cases inherited with
    | none => exact directoriesOf_of_whole (by decide)
    | some path => rfl
  have apart : directories
      = directory.toList ++ systemDirectories ++ inherited.elim [""] directoriesOf := by
    cases directory with
    | none => exact (directoriesOf_searchPathFor_none inherited).trans (by rw [behind]; rfl)
    | some own =>
      have whole : ':' ∉ own.toList := (proper own rfl).2
      simp only [directories, searchPathFor_some, directoriesOf_append, directoriesOf_of_whole whole,
        directoriesOf_searchPathFor_none, behind, Option.toList_some, List.append_assoc]
  have empty : "" ∈ directories ↔
      inherited = none ∨ ∃ path, inherited = some path ∧ "" ∈ directoriesOf path := by
    have own : "" ∉ directory.toList := fun member =>
      (proper "" (Option.mem_toList.mp member)).1 rfl
    have system : "" ∉ systemDirectories := by decide
    rw [apart, List.mem_append, or_iff_right (by simp [own, system])]
    cases inherited with
    | none => simp
    | some path => simp
  exact ⟨apart, empty, fun unset files home program plain runs =>
    isSome_locate_of_empty (empty.mpr (Or.inl unset)) plain runs⟩

/-- A host that has one file alone, a program in the working directory. -/
def plantedFiles : FileSystem where
  nodes := #[.file 0o755 []]
  names := [(["valgrind"], 0)]
  workingDirectory := []

theorem runs_plantedFiles : plantedFiles.leadsTo Node.isExecutable "/valgrind" = true := by
  have pieces : FileSystem.piecesOf "/valgrind" = [[], "valgrind".toList] := by decide
  have root : plantedFiles.isDirectoryName [] = true := by decide
  have ends : plantedFiles.follow true FileSystem.linkLimit ["valgrind"] [] = .ok ["valgrind"] := by
    rw [FileSystem.follow]
  have place : plantedFiles.follow true FileSystem.linkLimit [] [[], "valgrind".toList]
      = .ok ["valgrind"] := by
    rw [FileSystem.follow, if_neg (by simp [root]), if_pos (Or.inl rfl), FileSystem.follow,
      if_neg (by simp [root]), if_neg (by decide), if_neg (by decide), if_neg (by decide)]
    exact ends
  have resolved : plantedFiles.resolve "/valgrind" = .ok ["valgrind"] := by
    rw [FileSystem.resolve, if_neg (by decide), if_neg (by decide), if_neg (by decide), pieces]
    exact place
  rw [FileSystem.leadsTo, FileSystem.find, resolved]
  rfl

/-- With nothing inherited there is one directory more than the driver's own and the system's, and
the program in the working directory is taken. -/
theorem directoriesOf_searchPathFor_unset :
    let searchPath := searchPathFor (some "/opt/dcc") none
    (∀ own ∈ some "/opt/dcc", own ≠ "" ∧ ':' ∉ own.toList)
      ∧ directoriesOf searchPath = "/opt/dcc" :: systemDirectories ++ [""]
      ∧ (plantedFiles.locate "/root" searchPath "valgrind").isSome = true := by
  intro searchPath
  have proper : ∀ own ∈ some "/opt/dcc", own ≠ "" ∧ ':' ∉ own.toList := by
    rintro own ⟨⟩
    decide
  have runs : plantedFiles.leadsTo Node.isExecutable
      (Path.joinText ("/" ++ "/".intercalate plantedFiles.workingDirectory) "valgrind") = true := by
    exact runs_plantedFiles
  obtain ⟨apart, -, found⟩ := directoriesOf_searchPathFor none proper
  exact ⟨proper, apart, found rfl plantedFiles "/root" "valgrind" (by decide) runs⟩

end CheckedBuild
