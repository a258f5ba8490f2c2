import CheckedBuild.Machine.Node
import CheckedBuild.Machine.Refusal
import CheckedBuild.Path.Basic
import CheckedBuild.Text.Pieces

/-!
# A file system in memory

Nodes are found under absolute names, which are lists of components; several names may stand for
one node. A path is followed step by step: every step but the last has to lead to a directory, and
so has the last one if a slash or a dot comes after it. A symbolic link on the way is replaced by
the path that it stands for, but not too often.
-/

namespace CheckedBuild.Machine

/-- An absolute name: the components from the root on. -/
abbrev Name := List String

/-- Nodes, the names that they are found under, and the circumstances of the process that looks
at them. The root is always there. -/
structure FileSystem where
  nodes : Array Node
  /-- The names with the numbers of their nodes. -/
  names : List (Name × Nat)
  /-- Where relative paths start. -/
  workingDirectory : Name
  /-- The permissions that new nodes do not get. -/
  mask : Nat := 0o022
  /-- The time in nanoseconds since the beginning of 1970. -/
  now : Nat := 1735732800000000000
deriving Repr

namespace FileSystem

/-- The number of the node under a name. -/
def number? (files : FileSystem) (name : Name) : Option Nat := files.names.lookup name

/-- The node under a name. -/
def node? (files : FileSystem) (name : Name) : Option Node :=
  if name = [] then some (.directory 0o755)
  else (files.number? name).bind fun number => files.nodes[number]?

/-- Whether there is a directory under the name. -/
def isDirectoryName (files : FileSystem) (name : Name) : Bool :=
  (files.node? name).any Node.isDirectory

/-- The longest component of a path, in bytes. -/
def longestComponent : Nat := 255

/-- How many symbolic links a path may lead through. -/
def linkLimit : Nat := 40

/-- The pieces of a path between its slashes. -/
def piecesOf (path : String) : List (List Char) := Text.pieces '/' path.toList

/-- Where a path starts that is met at a name. -/
def startOf (here : Name) (path : String) : Name :=
  if Path.isAbsolute path.toList then [] else here

/-- Follows the pieces of a path from a name. The last piece may name nothing yet; a link there is
only gone through if `through` says so. At most `links` links are gone through. -/
def follow (files : FileSystem) (through : Bool) (links : Nat) (here : Name) :
    List (List Char) → Except Refusal Name
  | [] => .ok here
  | piece :: rest =>
    if !files.isDirectoryName here then
      .error (if (files.node? here).isSome then .notDirectory else .notFound)
    else if piece = [] ∨ piece = ['.'] then files.follow through links here rest
    else if piece = ['.', '.'] then files.follow through links here.dropLast rest
    else if longestComponent < (Utf8.encode piece).length then .error .nameTooLong
    else
      let name := here ++ [String.ofList piece]
      match (files.node? name).map Node.content, links with
      | some (.link target), links =>
        if rest.isEmpty && !through then .ok name
        else
          match links with
          | 0 => .error .tooManyLevels
          | links + 1 =>
            files.follow through links (startOf here target) (piecesOf target ++ rest)
      | _, links => files.follow through links name rest
termination_by pieces => (links, pieces.length)

/-- The longest path, in bytes. -/
def longestPath : Nat := 4095

/-- The name that a path leads to; `through` tells whether a link at its end is gone through. -/
def resolve (files : FileSystem) (path : String) (through : Bool := true) : Except Refusal Name :=
  if path = "" then .error .notFound
  else if '\x00' ∈ path.toList then .error .nulInPath
  else if longestPath < (Utf8.bytesOf path).length then .error .nameTooLong
  else files.follow through linkLimit (startOf files.workingDirectory path) (piecesOf path)

/-- The node that a path leads to, with its name. -/
def find (files : FileSystem) (path : String) (through : Bool := true) :
    Except Refusal (Name × Node) :=
  match files.resolve path through with
  | .error refusal => .error refusal
  | .ok name =>
    match files.node? name with
    | some node => .ok (name, node)
    | none => .error .notFound

/-- Whether anything is at the path. -/
def exists? (files : FileSystem) (path : String) : Bool := (files.find path).toBool

/-- Whether the path leads to a node of a kind. -/
def leadsTo (files : FileSystem) (p : Node → Bool) (path : String) : Bool :=
  match files.find path with
  | .ok (_, node) => p node
  | .error _ => false

/-- Whether the path leads to a directory. -/
def isDirectory (files : FileSystem) (path : String) : Bool :=
  files.leadsTo Node.isDirectory path

/-- Whether the path leads to a regular file. -/
def isFile (files : FileSystem) (path : String) : Bool := files.leadsTo Node.isRegular path

/-- The size that is on record for a path. -/
def size (files : FileSystem) (path : String) : Except Refusal Nat :=
  (files.find path).map fun (_, node) => node.size

/-- The contents of a file. -/
def read (files : FileSystem) (path : String) : Except Refusal Bytes :=
  match files.find path with
  | .ok (_, node) => if node.isDirectory then .error .isDirectory else .ok node.bytes
  | .error refusal => .error refusal

/-- How many names stand for a node. -/
def links (files : FileSystem) (name : Name) : Nat :=
  match files.number? name with
  | some number => (files.names.filter (·.2 == number)).length
  | none => 1

/-- The names in a directory with their nodes. -/
def entries (files : FileSystem) (directory : Name) : List (String × Node) :=
  files.names.filterMap fun (name, number) =>
    match name.getLast?, files.nodes[number]? with
    | some last, some node => if name.dropLast = directory then some (last, node) else none
    | _, _ => none

/-- Changes a node. -/
def change (files : FileSystem) (number : Nat) (f : Node → Node) : FileSystem :=
  { files with nodes := files.nodes.modify number f }

/-- Changes the node under a name. -/
def changeAt (files : FileSystem) (name : Name) (f : Node → Node) : FileSystem :=
  match files.number? name with
  | some number => files.change number f
  | none => files

/-- Changes the data of a file. -/
def changeData (files : FileSystem) (number : Nat) (f : Data → Data) : FileSystem :=
  files.change number fun node =>
    match node.content with
    | .file data => { node with content := .file (f data), changed := files.now }
    | _ => node

/-- Records that something is new or gone in a directory. -/
def touchDirectory (files : FileSystem) (directory : Name) : FileSystem :=
  files.changeAt directory fun node => { node with changed := files.now }

/-- The file system with a name for a node that is there, in the place of what the name stood for
before. -/
def bind (files : FileSystem) (name : Name) (number : Nat) : FileSystem :=
  { files with names := (name, number) :: files.names.filter (·.1 != name) }.touchDirectory
    name.dropLast

/-- The file system with a new node under a name. -/
def put (files : FileSystem) (name : Name) (node : Node) : FileSystem :=
  { files with nodes := files.nodes.push { node with changed := files.now } }.bind name
    files.nodes.size

/-- The file system without a name. -/
def remove (files : FileSystem) (name : Name) : FileSystem :=
  { files with names := files.names.filter (·.1 != name) }.touchDirectory name.dropLast

/-- The file system without a name and everything below it. -/
def removeTree (files : FileSystem) (name : Name) : FileSystem :=
  { files with names := files.names.filter fun entry => !name.isPrefixOf entry.1 }.touchDirectory
    name.dropLast

/-- The file system with everything at and below one name moved to another one, where nothing is
left of what was there. -/
def move (files : FileSystem) (source target : Name) : FileSystem :=
  let kept := files.names.filter fun entry => !target.isPrefixOf entry.1
  let names := kept.map fun (name, number) =>
    if source.isPrefixOf name then (target ++ name.drop source.length, number) else (name, number)
  ({ files with names }.touchDirectory source.dropLast).touchDirectory target.dropLast

/-- The names of the directories above a name, the shortest first. -/
def parents (name : Name) : List Name :=
  (List.range name.length).map name.take

/-- The file system with the missing ones of some directories. -/
def makeDirectories (files : FileSystem) (names : List Name) : FileSystem :=
  names.foldl (fun files name =>
    if (files.node? name).isSome then files else files.put name (.directory 0o755)) files

/-- Puts a node at a path, with the directories above it. -/
def install (files : FileSystem) (path : String) (node : Node) : FileSystem :=
  let pieces := (piecesOf path).filter fun piece => piece ≠ [] ∧ piece ≠ ['.']
  let name := startOf files.workingDirectory path ++ pieces.map String.ofList
  (files.makeDirectories (parents name)).put name node

/-- The path without the slashes at its end. -/
def withoutFinalSlashes (path : String) : String :=
  String.ofList (path.toList.reverse.dropWhile (· = '/')).reverse

/-- Makes a new node at a path, where there is none. A path that ends in a slash can only mean a
directory. -/
def make (files : FileSystem) (path : String) (node : Node) : Except Refusal FileSystem :=
  let shorter := withoutFinalSlashes path
  match files.resolve (if shorter = "" then path else shorter) false with
  | .error refusal => .error refusal
  | .ok name =>
    if (files.node? name).isSome then .error .occupied
    else if !files.isDirectoryName name.dropLast then .error .notFound
    else if shorter ≠ path && !node.isDirectory then .error .notFound
    else .ok (files.put name { node with mode := node.mode - (node.mode &&& files.mask) })

/-- Makes an empty file at a path, or empties the one that is there unless it is to be kept. The
result is the node to write to. A path that ends in a slash can only mean a directory. -/
def create (files : FileSystem) (keep : Bool) (path : String) :
    Except Refusal (FileSystem × Nat) :=
  let shorter := withoutFinalSlashes path
  match files.resolve (if shorter = "" then path else shorter) with
  | .error refusal => .error refusal
  | .ok name =>
    if shorter ≠ path then .error .isDirectory
    else
      match files.number? name, (files.node? name).map Node.content with
      | some number, some (.file _) =>
        .ok (if keep then files else files.changeData number fun _ => {}, number)
      | some number, some (.device _) | some number, some (.pipe _) => .ok (files, number)
      | some _, some (.tool _) => .error .denied
      | _, some _ => .error .isDirectory
      | _, none =>
        if files.isDirectoryName name.dropLast then
          let mode := 0o666 - (0o666 &&& files.mask)
          .ok (files.put name (.file mode []), files.nodes.size)
        else .error .notFound

/-- Writes a whole file. -/
def write (files : FileSystem) (path : String) (bytes : Bytes) : Except Refusal FileSystem :=
  (files.create false path).map fun (files, number) =>
    files.changeData number fun data => data.append bytes

end FileSystem

end CheckedBuild.Machine
