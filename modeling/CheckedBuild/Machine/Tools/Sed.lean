import CheckedBuild.Editing.Reader
import CheckedBuild.Editing.Run

/-!
# Editing streams

The inputs are edited as a script says: all of them together, each on its own, or each one in its
place. The parts of the script are given with options; without any the first operand is the
script.
-/

namespace CheckedBuild.Machine.Tools

open Process

/-- The options of the editor. Long ones without a letter have a Greek one. -/
def editorOptions : OptionTable :=
  { plain := "nErsuzbπδσλ", valued := "efl", attached := "i"
    words := [("expression", 'e'), ("file", 'f'), ("quiet", 'n'), ("silent", 'n'),
      ("regexp-extended", 'E'), ("separate", 's'), ("unbuffered", 'u'), ("null-data", 'z'),
      ("zero-terminated", 'z'), ("in-place", 'i'), ("line-length", 'l'), ("binary", 'b'),
      ("posix", 'π'), ("debug", 'δ'), ("sandbox", 'σ'), ("follow-symlinks", 'λ')] }

/-- Reads the parts of a script in order; `count` is the number of arguments among them so far. -/
def readParts (process : Process) (reading : Editing.Reading) (count : Nat) (isFirst : Bool) :
    List (Char × List Char) → Step (Except Editing.Fault Editing.Reading)
  | [] => return .ok reading
  | (letter, value) :: rest => do
    let part : Except Editing.Fault Editing.Part ←
      if letter = 'e' then pure (.ok ⟨.argument (count + 1), value⟩)
      else
        let refused (refusal : Refusal) : Editing.Fault :=
          .grave ("couldn't open file ".toList ++ value ++ ": ".toList
            ++ refusal.complaint.toList)
        let opened ← if value = ['-'] then pure process.inputStream else process.openFile value
        match opened with
        | .error refusal => pure (.error (refused refusal))
        | .ok stream => pure (.ok ⟨.file value, ← readAll stream⟩)
    match part with
    | .error fault => return .error fault
    | .ok part =>
      match (Editing.takePart isFirst part).run reading with
      | .error fault => return .error fault
      | .ok (_, reading) =>
        readParts process reading (if letter = 'e' then count + 1 else count) false rest

/-- Edits the inputs as the script says that options give. -/
def editAs (starter : Starter) (process : Process) (options : Arguments)
    (parts : List (Char × List Char)) (names : List (List Char)) : Step Nat := do
  let feed := if options.has 'z' then '\x00' else '\n'
  let spelling : Editing.Spelling :=
    { extended := options.has 'E' || options.has 'r', feed, isConfined := options.has 'σ' }
  let read ← readParts process (.start spelling) 0 true parts
  match read.bind Editing.Reading.script with
  | .error fault =>
    process.complain fault.message
    return fault.status
  | .ok script =>
    let inPlace := options.value? 'i'
    if inPlace.isSome && names.isEmpty then
      process.complain "no input files".toList
      return 4
    let width := ((options.value? 'l').map fun s =>
      ((Text.natural? (s.takeWhile Char.isDigit)).getD 0)).getD 70
    let manner : Editing.Manner :=
      { isSilent := options.has 'n' || script.isSilent
        feed, width := if width = 0 then none else some width
        isSeparate := options.has 's' || inPlace.isSome
        inPlace, followsLinks := options.has 'λ', isSparing := options.has 'u' }
    let editor (kernel : Kernel) : Editing.Editor :=
      { script, manner, process, starter, kernel
        names := if names.isEmpty then [['-']] else names }
    match ← Editing.editInputs.report editor with
    | (.ok status, _) => return status
    | (.error (.ended ending), _) => throw ending
    | (.error _, _) => return 4

/-- Edits the lines of its inputs. -/
def sed (starter : Starter) (process : Process) : Step Nat := do
  let process := { process with name := process.shortName }
  let usage : Step Nat := do
    process.warn
      "Usage: sed [OPTION]... \x7bscript-only-if-no-other-script\x7d [input-file]...".toList
    return 1
  match editorOptions.read (process.arguments.length + 1) process.arguments with
  | .error message =>
    process.complain message
    usage
  | .ok options =>
    let parts := options.options.filter fun entry => entry.1 = 'e' || entry.1 = 'f'
    match parts, options.operands with
    | [], [] => usage
    | [], script :: names => editAs starter process options [('e', script)] names
    | parts, names => editAs starter process options parts names

end CheckedBuild.Machine.Tools
