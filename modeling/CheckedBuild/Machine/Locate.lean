import CheckedBuild.Machine.FileSystem

/-!
# Looking for programs

The driver looks for programs in the directories of a search path. A tilde at the front of a
directory stands for the home directory, and relative directories start at the working directory.
-/

namespace CheckedBuild.Machine.FileSystem

/-- The directories of a search path; an empty one is the working directory. -/
def directoriesOf (searchPath : String) : List String :=
  (Text.pieces ':' searchPath.toList).map String.ofList

/-- The path with the working directory in front and without needless components. -/
def absolute (files : FileSystem) (path : String) : String :=
  if Path.isAbsolute path.toList then path
  else
    let inside := (Path.components path.toList).filter (· ≠ .current)
    "/" ++ "/".intercalate
      (files.workingDirectory ++ inside.map fun part => String.ofList part.text)

/-- The home directory, given the variable for it, which counts only if it is not empty. -/
def homeDirectory (setting? : Option String) : String :=
  match setting? with
  | none | some "" => "/root"
  | some directory => directory

/-- A directory with the home directory in the place of a tilde that is its first component. -/
def expandHome (home directory : String) : String :=
  match Path.components directory.toList with
  | .named ['~'] :: rest =>
    rest.foldl (fun path part => Path.joinText path (String.ofList part.text)) home
  | _ => directory

/-- Where a directory of a search path is looked for. It is left alone if it still begins with a
tilde when that has been replaced. -/
def placeOf (files : FileSystem) (home directory : String) : String :=
  let expanded := expandHome home directory
  if (Path.components expanded.toList).head? = some (.named ['~']) then expanded
  else files.absolute expanded

/-- The first file with permission to be run that a program's name leads to. A name of several
components is taken as a path, any other one is looked for in the directories of the search
path. -/
def locate (files : FileSystem) (home searchPath program : String) : Option String :=
  let candidates :=
    if 1 < (Path.components program.toList).length then [files.absolute program]
    else (directoriesOf searchPath).map fun directory =>
      Path.joinText (files.placeOf home directory) program
  candidates.find? (files.leadsTo Node.isExecutable)

end CheckedBuild.Machine.FileSystem
