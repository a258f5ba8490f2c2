import CheckedBuild.Machine.Process

/-!
# Options among arguments

Options are letters after a dash, several of which may share an argument, or words after two
dashes. An option with a value takes the rest of its argument or else the next one. The other
arguments are operands, wherever they stand; two dashes alone end the options.
-/

namespace CheckedBuild.Machine

/-- Which options a tool has. -/
structure OptionTable where
  /-- Letters of options without a value. -/
  plain : String
  /-- Letters of options with a value. -/
  valued : String := ""
  /-- Letters of options whose value is the rest of the argument, which may be empty. -/
  attached : String := ""
  /-- Words for letters. -/
  words : List (String × Char) := []
  /-- Operands end the options. -/
  strict : Bool := false

/-- Options with their values, and operands. -/
structure Arguments where
  options : List (Char × List Char) := []
  operands : List (List Char) := []

namespace Arguments

/-- Whether an option is given. -/
def has (arguments : Arguments) (letter : Char) : Bool :=
  arguments.options.any (·.1 == letter)

/-- The last value of an option. -/
def value? (arguments : Arguments) (letter : Char) : Option (List Char) :=
  (arguments.options.reverse.find? (·.1 == letter)).map (·.2)

/-- The last of some options that is given, with its value. -/
def lastOf? (arguments : Arguments) (letters : String) : Option (Char × List Char) :=
  arguments.options.reverse.find? fun o => letters.toList.contains o.1

/-- All values of an option in order. -/
def values (arguments : Arguments) (letter : Char) : List (List Char) :=
  arguments.options.filterMap fun o => if o.1 == letter then some o.2 else none

end Arguments

/-- Reads the letters of one argument; the result tells whether the next argument was used. -/
def OptionTable.readLetters (table : OptionTable) (next : Option (List Char)) :
    List Char → Except (List Char) (List (Char × List Char) × Bool)
  | [] => .ok ([], false)
  | letter :: rest =>
    if table.valued.toList.contains letter then
      match rest, next with
      | [], some value => .ok ([(letter, value)], true)
      | [], none => .error ("option requires an argument -- '".toList ++ [letter, '\''])
      | value, _ => .ok ([(letter, value)], false)
    else if table.attached.toList.contains letter then .ok ([(letter, rest)], false)
    else if table.plain.toList.contains letter then
      (table.readLetters next rest).map fun (more, used) => ((letter, []) :: more, used)
    else .error ("invalid option -- '".toList ++ [letter, '\''])

/-- Reads a word after two dashes. -/
def OptionTable.readWord (table : OptionTable) (next : Option (List Char)) (s : List Char) :
    Except (List Char) ((Char × List Char) × Bool) :=
  let name := s.takeWhile (· ≠ '=')
  let given := (s.drop name.length).drop 1
  let candidates := table.words.filter fun (word, _) => name.isPrefixOf word.toList
  match table.words.lookup (String.ofList name) <|> (candidates.head?).map (·.2) with
  | none => .error ("unrecognized option '--".toList ++ s ++ ['\''])
  | some letter =>
    if table.valued.toList.contains letter && name.length = s.length then
      match next with
      | some value => .ok ((letter, value), true)
      | none => .error ("option '--".toList ++ name ++ "' requires an argument".toList)
    else .ok ((letter, given), false)

/-- Sorts arguments into options and operands. -/
def OptionTable.read (table : OptionTable) (fuel : Nat) :
    List (List Char) → Except (List Char) Arguments
  | [] => .ok {}
  | argument :: rest =>
    match fuel with
    | 0 => .ok {}
    | fuel + 1 =>
      match argument with
      | ['-', '-'] => .ok { operands := rest }
      | '-' :: '-' :: word => do
        let (option, used) ← table.readWord rest.head? word
        let more ← table.read fuel (if used then rest.tail else rest)
        return { more with options := option :: more.options }
      | '-' :: letter :: letters => do
        let (options, used) ← table.readLetters rest.head? (letter :: letters)
        let more ← table.read fuel (if used then rest.tail else rest)
        return { more with options := options ++ more.options }
      | _ =>
        if table.strict then .ok { operands := argument :: rest }
        else do
          let more ← table.read fuel rest
          return { more with operands := argument :: more.operands }

/-- Runs a tool with its arguments sorted; a wrong option ends it with the given status. -/
def Process.withOptions (process : Process) (table : OptionTable) (failure : Nat)
    (run : Arguments → Step Nat) : Step Nat := do
  match table.read (process.arguments.length + 1) process.arguments with
  | .ok arguments => run arguments
  | .error message =>
    process.complain message
    process.warn ("Try '".toList ++ process.name ++ " --help' for more information.".toList)
    return failure

end CheckedBuild.Machine
