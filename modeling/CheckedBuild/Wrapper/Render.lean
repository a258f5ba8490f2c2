import CheckedBuild.Error
import CheckedBuild.Text.Pieces
import CheckedBuild.Wrapper.Field
import CheckedBuild.Wrapper.Template

/-!
# Filling a template

A placeholder is `__DCC_`, the shortest possible non-empty name, and `__`. Placeholders are found
from the left and do not overlap. A template has to use every field and no other placeholder;
values are put in as they are and never searched for placeholders.
-/

namespace CheckedBuild.Wrapper

open Text

/-- A character of a placeholder's name. -/
def isNameCharacter (c : Char) : Bool :=
  ('A' ≤ c && c ≤ 'Z') || ('0' ≤ c && c ≤ '9') || c == '_'

/-- The shortest name at the start of the text that two underscores follow. -/
def shortestName? : List Char → Option (List Char)
  | [] => none
  | c :: rest =>
    if isNameCharacter c then
      if "__".toList.isPrefixOf rest then some [c] else (shortestName? rest).map (c :: ·)
    else none

/-- The name in the placeholder at the start of the text. -/
def placeholder? (s : List Char) : Option (List Char) :=
  after? "__DCC_".toList s >>= shortestName?

/-- A piece of a template. -/
inductive Piece where
  | character (c : Char)
  | placeholder (name : List Char)
deriving DecidableEq, Repr

/-- The pieces of a template whose first `skipped` characters belong to a placeholder. -/
def piecesAfter (skipped : Nat) : List Char → List Piece
  | [] => []
  | c :: rest =>
    match skipped with
    | more + 1 => piecesAfter more rest
    | 0 =>
      match placeholder? (c :: rest) with
      | some name => .placeholder name :: piecesAfter (name.length + 7) rest
      | none => .character c :: piecesAfter 0 rest

/-- The pieces of a template in order. -/
def pieces (template : List Char) : List Piece := piecesAfter 0 template

/-- The names of the placeholders in order. -/
def Piece.names (ps : List Piece) : List (List Char) :=
  ps.filterMap fun
    | .placeholder name => some name
    | .character _ => none

/-- What a piece is replaced by. -/
def Piece.filled (values : Values) : Piece → List Char
  | .character c => [c]
  | .placeholder name => ((Field.ofName? name).map values.value).getD []

/-- The first fault of a template: a placeholder of no field, or else a field not used. -/
def fault? (ps : List Piece) : Option TemplateError :=
  match (Piece.names ps).find? fun name => (Field.ofName? name).isNone with
  | some name => some (.unknownPlaceholder (String.ofList name))
  | none =>
    (Field.all.find? fun field => !(Piece.names ps).contains field.name.toList).map
      fun field => .unusedField field.name

/-- The template with every placeholder replaced by the value of its field. -/
def fill (template : String) (values : Values) : Except TemplateError String :=
  let ps := pieces template.toList
  match fault? ps with
  | some error => .error error
  | none => .ok (String.ofList (ps.flatMap (Piece.filled values)))

/-- The source of the wrapper. -/
def source (values : Values) : Except TemplateError String := fill template values

end CheckedBuild.Wrapper
