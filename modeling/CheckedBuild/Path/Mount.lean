import CheckedBuild.Path.Basic
import CheckedBuild.Text.Character
import CheckedBuild.Text.Pieces

/-!
# Mount points of home directories

A home directory may be seen under the place where a file server mounts it. Such places have
three shapes, and `/home/` is put in the place of each in turn: of the first shape wherever it
occurs, of the others only at the start of the path.
-/

namespace CheckedBuild.Path

open Text

/-- Takes a non-empty component whose characters all satisfy `allowed`, and the slash after it. -/
def takeComponent? (allowed : Char → Bool) (s : List Char) :
    Option (List Char × List Char) :=
  match s.takeWhile allowed, s.dropWhile allowed with
  | [], _ => none
  | name, '/' :: rest => some (name, rest)
  | _, _ => none

/-- The rest of the path after a component of word characters. -/
def afterWord? (s : List Char) : Option (List Char) :=
  (takeComponent? isWordCharacter s).map (·.2)

/-- The rest of the path after a word of at least four characters that ends in `ort`. -/
def afterOrt? (s : List Char) : Option (List Char) := do
  let (name, rest) ← takeComponent? isWordCharacter s
  if 4 ≤ name.length ∧ ['o', 'r', 't'].isSuffixOf name then some rest else none

/-- The rest of the path after a component of digits. -/
def afterNumber? (s : List Char) : Option (List Char) :=
  (takeComponent? isDigit s).map (·.2)

/-- `/tmp_amd/A/B/C/D/` with words `A` and `C`, a word `B` in `ort` and a number `D`. -/
def afterDeepMount? (s : List Char) : Option (List Char) :=
  after? "/tmp_amd/".toList s >>= afterWord? >>= afterOrt? >>= afterWord? >>= afterNumber?

/-- `/tmp_amd/A/B/D/` with a word `A`, a word `B` in `ort` and a number `D`. -/
def afterMount? (s : List Char) : Option (List Char) :=
  after? "/tmp_amd/".toList s >>= afterWord? >>= afterOrt? >>= afterNumber?

/-- `/import/A/D/` or `/export/A/D/` with a word `A` and a number `D`. -/
def afterExport? (s : List Char) : Option (List Char) :=
  (after? "/import/".toList s <|> after? "/export/".toList s) >>= afterWord? >>= afterNumber?

/-- Where home directories are reached. -/
def home : List Char := "/home/".toList

/-- Rewrites every occurrence of a shape, from the left. -/
def rewriteAll (afterShape? : List Char → Option (List Char)) : List Char → List Char
  | [] => []
  | c :: rest =>
    match afterShape? (c :: rest) with
    | some tail =>
      if _shorter : tail.length ≤ rest.length then home ++ rewriteAll afterShape? tail
      else c :: rewriteAll afterShape? rest
    | none => c :: rewriteAll afterShape? rest
termination_by s => s.length

/-- Rewrites a shape at the start of the path. -/
def rewriteStart (afterShape? : List Char → Option (List Char)) (s : List Char) : List Char :=
  match afterShape? s with
  | some tail => home ++ tail
  | none => s

/-- The path with its mount points replaced. -/
def fromHome (path : String) : String :=
  String.ofList
    (rewriteStart afterExport? (rewriteStart afterMount? (rewriteAll afterDeepMount? path.toList)))

end CheckedBuild.Path
