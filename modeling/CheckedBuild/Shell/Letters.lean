import CheckedBuild.Shell.State

/-!
# Options of builtin commands

Builtin commands take options of one letter from the front of their arguments. Several letters may
share an argument, and two dashes end the options.
-/

namespace CheckedBuild.Shell

open CheckedBuild.Machine

/-- Options of one letter and what follows them. -/
structure Letters where
  options : List (Char × List Char) := []
  operands : List (List Char) := []

/-- Reads the letters of an argument; those in `valued` take a value. -/
def readLetters (plain valued : String) (next : Option (List Char)) :
    List Char → Run (List (Char × List Char) × Bool)
  | [] => return ([], false)
  | letter :: rest => do
    if valued.toList.contains letter then
      match rest, next with
      | [], some value => return ([(letter, value)], true)
      | [], none => fail ("No arg for -".toList ++ letter :: " option".toList)
      | value, _ => return ([(letter, value)], false)
    else if plain.toList.contains letter then
      let (more, used) ← readLetters plain valued next rest
      return ((letter, []) :: more, used)
    else fail ("Illegal option -".toList ++ [letter])

/-- Takes the options off the front of the arguments. -/
def takeOptions (plain valued : String) (fuel : Nat) (arguments : List (List Char)) :
    Run Letters := do
  match fuel with
  | 0 => return { operands := arguments }
  | fuel + 1 =>
    match arguments with
    | ['-', '-'] :: rest => return { operands := rest }
    | ('-' :: letter :: letters) :: rest =>
      let (options, used) ← readLetters plain valued rest.head? (letter :: letters)
      let more ← takeOptions plain valued fuel (if used then rest.tail else rest)
      return { more with options := options ++ more.options }
    | operands => return { operands }

/-- Takes options without values off the front of the arguments. -/
def takeFlags (plain : String) (arguments : List (List Char)) :
    Run (List Char × List (List Char)) := do
  let letters ← takeOptions plain "" (arguments.length + 1) arguments
  return (letters.options.map (·.1), letters.operands)

end CheckedBuild.Shell
