import CheckedBuild.Shell.Engine
import CheckedBuild.Shell.Pattern

/-!
# Fields

Expanding a word yields pieces, and the pieces are put together to fields: results of unquoted
expansions are split at separators, everything else stays whole. A field that can match more than
its own text stands for the paths that it matches, if there are any.
-/

namespace CheckedBuild.Shell

open CheckedBuild.Machine

/-- The fields finished so far and the one that is growing, all of them backwards. -/
structure Fields where
  finished : List (List Marked) := []
  growing : List Marked := []
  /-- Whether there is a field that is growing. -/
  isOpen : Bool := false
  /-- The last field was ended by blanks, which one more separator may follow. -/
  afterBlank : Bool := false

namespace Fields

/-- Ends the field that is growing. -/
def close (fields : Fields) (afterBlank : Bool) : Fields :=
  { finished := fields.growing.reverse :: fields.finished, afterBlank }

/-- Adds characters to the field that is growing. -/
def add (fields : Fields) (quoted : Bool) (s : List Char) : Fields :=
  { fields with
    growing := s.foldl (fun growing c => (c, quoted) :: growing) fields.growing
    isOpen := true, afterBlank := false }

/-- Takes one character of a result that is split. -/
def takeLoose (separators : List Char) (fields : Fields) (c : Char) : Fields :=
  if !separators.contains c then fields.add false [c]
  else if c = ' ' || c = '\t' || c = '\n' then
    if fields.isOpen then fields.close true else fields
  else if !fields.isOpen && fields.afterBlank then { fields with afterBlank := false }
  else fields.close false

/-- Takes one piece. -/
def take (separators : List Char) (fields : Fields) : Piece → Fields
  | .text quoted s => if s.isEmpty then fields else fields.add quoted s
  | .mark => { fields with isOpen := true, afterBlank := false }
  | .gap true => { fields.close false with isOpen := true }
  | .gap false => if fields.isOpen then fields.close false else fields
  | .loose s => s.foldl (takeLoose separators) fields

end Fields

/-- Whether a piece can make several fields of a word. -/
def Piece.splits : Piece → Bool
  | .loose _ | .gap _ => true
  | _ => false

/-- The characters of the pieces of a word that is not split. -/
def unsplit (joint : List Char) (pieces : List Piece) : List Marked :=
  pieces.flatMap fun
    | .text quoted s => s.map fun c => (c, quoted)
    | .loose s => s.map fun c => (c, false)
    | .mark => []
    | .gap quoted => joint.map fun c => (c, quoted)

/-- The fields of the pieces of a word. A word without anything that splits is a field even if it
is empty. -/
def fieldsOf (separators : List Char) (pieces : List Piece) : List (List Marked) :=
  if pieces.any Piece.splits then
    let fields := pieces.foldl (Fields.take separators) {}
    (if fields.isOpen then fields.close false else fields).finished.reverse
  else [unsplit [] pieces]

/-- Characters without their marks. -/
def unmarked (s : List Marked) : List Char := s.map (·.1)

/-- A part of a pattern without wild characters, as the text that it matches. -/
def literalText : List Marked → List Char
  | ('\\', false) :: (c, _) :: rest => c :: literalText rest
  | (c, _) :: rest => c :: literalText rest
  | [] => []

/-- A pattern at its slashes. -/
def patternPieces (pattern : List Marked) : List (List Marked) :=
  pattern.foldr (fun c pieces =>
    if c.1 = '/' then [] :: pieces else (c :: pieces.headD []) :: pieces.tail) [[]]

/-- The names in a directory that a pattern without slashes matches. Those with a dot in front
need a dot in the pattern. -/
def matchingNames (files : FileSystem) (directory : List Char) (pattern : List Marked) :
    List (List Char) :=
  let path := if directory.isEmpty then "." else textOfRaw directory
  let dotted := (literalText pattern).head? = some '.'
  match files.find path with
  | .ok (name, _) =>
    let names := (files.entries name).map fun entry => rawOf entry.1
    let shown := if dotted then ['.'] :: ['.', '.'] :: names else names
    shown.filter fun s => (s.head? = some '.') = dotted && doesMatch pattern s
  | .error _ => []

/-- The paths that the pieces of a pattern match after a path. -/
def pathsAfter (files : FileSystem) (path : List Char) : List (List Marked) → List (List Char)
  | [] => []
  | [piece] =>
    if isWild piece then (matchingNames files path piece).map fun name => path ++ name
    else
      let path := path ++ literalText piece
      if files.exists? (textOfRaw path) then [path] else []
  | piece :: rest =>
    if isWild piece then
      (matchingNames files path piece).flatMap fun name =>
        pathsAfter files (path ++ name ++ ['/']) rest
    else pathsAfter files (path ++ literalText piece ++ ['/']) rest

/-- The paths that a field stands for in order, or itself. -/
def pathsOf (files : FileSystem) (field : List Marked) : List (List Char) :=
  if isWild field then
    let found := pathsAfter files [] (patternPieces field)
    if found.isEmpty then [unmarked field] else found.mergeSort fun a b => !decide (b < a)
  else [unmarked field]

end CheckedBuild.Shell
