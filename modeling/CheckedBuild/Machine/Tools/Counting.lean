import CheckedBuild.Machine.Tools.Arguments
import CheckedBuild.Machine.Tools.Format
import CheckedBuild.Machine.Tools.Neighbours

/-!
# Counting

Lines, words, characters and bytes of inputs are counted, and how many columns their longest lines
take.
-/

namespace CheckedBuild.Machine.Tools

open Process

/-- How many words a text has. -/
def wordCount (s : List Char) : Nat :=
  (s.foldl (fun (count, inside) c =>
    let blank := c = ' ' || ('\t' ≤ c && c ≤ '\r')
    (if !blank && !inside then count + 1 else count, !blank)) (0, false)).1

/-- The characters of a text whose characters may be of several bytes. What is no character is
left out. -/
def wideCharacters (s : List Char) : List Char :=
  (Utf8.decode (bytesOfRaw s)).filter (· ≠ Utf8.replacement)

/-- How many columns a character takes. -/
def columnsOf (c : Char) : Nat :=
  let isIn (low high : Nat) : Bool := low ≤ c.toNat && c.toNat ≤ high
  if c.toNat < 128 then if isIn 32 126 then 1 else 0
  else if isIn 0x80 0x9F || isIn 0x300 0x36F || isIn 0x200B 0x200F then 0
  else if isIn 0x1100 0x115F || isIn 0x2E80 0xA4CF || isIn 0xAC00 0xD7A3 || isIn 0xF900 0xFAFF
      || isIn 0xFE30 0xFE6F || isIn 0xFF00 0xFF60 || isIn 0xFFE0 0xFFE6
      || isIn 0x1F300 0x1F64F || isIn 0x20000 0x3FFFD then 2
  else 1

/-- How many columns the longest line takes, tabs filled up to multiples of eight. -/
def longestLine (s : List Char) : Nat :=
  let (longest, last) := s.foldl (fun ((longest, column) : Nat × Nat) c =>
    if c = '\n' || c = '\r' || c = '\x0c' then (max longest column, 0)
    else if c = '\t' then (longest, (column / 8 + 1) * 8)
    else (longest, column + columnsOf c)) (0, 0)
  max longest last

/-- The counts of a text that are asked for, in the order in which they are shown. -/
def counts (isWide : Bool) (kinds : List Char) (s : List Char) : List Nat :=
  kinds.map fun
    | 'l' => s.count '\n'
    | 'w' => wordCount s
    | 'L' => longestLine (if isWide then wideCharacters s else s.filter (·.toNat < 128))
    | 'm' => if isWide then (wideCharacters s).length else s.length
    | _ => s.length

/-- How wide the numbers are. It depends on the sizes of the inputs, which are known beforehand for
files only, and which nobody asks for if a single number is shown. -/
def countWidth (process : Process) (kinds : List Char) (names : List (List Char)) :
    Step Nat := do
  if names.length = 1 && kinds.length = 1 then return 1
  let kernel ← get
  let nodeOf (name : List Char) : Option Node :=
    if name = ['-'] then (process.descriptors.lookup 0).map kernel.nodeOf
    else (kernel.files.find (textOfRaw name)).toOption.map (·.2)
  let nodes := names.map nodeOf
  match nodes.head? with
  | some (some _) =>
    let nodes := nodes.filterMap id
    let total := ((nodes.filter Node.isRegular).map Node.size).foldl (· + ·) 0
    return max (if nodes.all Node.isRegular then 1 else 7) (decimal total).length
  | _ => return 1

/-- The names of the inputs: the operands, or what a file lists that an option names. A complaint
about them comes with whether advice is given. -/
def namesOf (process : Process) (letter : Char) (notOpened : Refusal → List Char)
    (options : Arguments) : Step (Except (List Char × Bool) (List (List Char))) := do
  match options.value? letter with
  | none => return .ok options.operands
  | some list =>
    match options.operands with
    | extra :: _ =>
      return .error ("extra operand ".toList ++ marked extra
        ++ "\nfile operands cannot be combined with --files0-from".toList, true)
    | [] =>
      match ← process.openInput (some list) with
      | .error refusal => return .error (notOpened refusal, false)
      | .ok number =>
        let names := bareLinesEndedBy '\x00' (← readAll number)
        let empty? := (names.zipIdx.find? fun (name, _) => name.isEmpty).map (·.2)
        match empty?, list = ['-'] && names.contains ['-'] with
        | some i, _ =>
          return .error (list ++ ':' :: decimal (i + 1)
            ++ ": invalid zero-length file name".toList, false)
        | none, true =>
          return .error
            ("when reading file names from stdin, no file name of '-' allowed".toList, false)
        | none, false => return .ok names

/-- When the sums of all inputs are shown. -/
def totalChoices : List String := ["auto", "always", "only", "never"]

/-- Counts lines, words and bytes. -/
def wc (process : Process) : Step Nat :=
  process.withOptions
    { plain := "lwcmL", valued := "αβ"
      words := [("bytes", 'c'), ("chars", 'm'), ("lines", 'l'), ("words", 'w'),
        ("files0-from", 'α'), ("max-line-length", 'L'), ("total", 'β')] } 1
    fun options => do
      let total := String.ofList ((options.value? 'β').getD "auto".toList)
      if (chosenWord? totalChoices total.toList).isNone then
        return ← misuse process (wrongWord "--total" totalChoices total.toList) 1
      let notOpened (refusal : Refusal) : List Char :=
        "cannot open ".toList ++ marked ((options.value? 'α').getD [])
          ++ " for reading: ".toList ++ refusal.complaint.toList
      match ← namesOf process 'α' notOpened options with
      | .error (message, true) => misuse process message 1
      | .error (message, false) =>
        process.complain message
        return 1
      | .ok names =>
        let asked := "lwmcL".toList.filter options.has
        let kinds := if asked.isEmpty then "lwc".toList else asked
        let isRead := options.has 'α'
        -- names that come out of a pipe are not known beforehand
        let known ← if !isRead then pure true
          else do
            let node ← nodeAt ((options.value? 'α').getD [])
            pure (node.toOption.any fun (_, node) => node.isRegular)
        let width ← if total = "only" || !known then pure 1
          else countWidth process kinds (if names.isEmpty && !isRead then [['-']] else names)
        let row (numbers : List Nat) (name : Option (List Char)) : List Char :=
          let columns := numbers.map fun n => ({ width } : Format.Field).text (decimal n)
          (columns.intersperse [' ']).flatten ++ (name.map fun name => ' ' :: name).getD []
            ++ ['\n']
        let inputs : List (Option (List Char)) :=
          if names.isEmpty && !isRead then [none] else names.map some
        let isWide := process.isWide
        let (all, status) ← inputs.foldlM (fun (all, status) name => do
          let tell (numbers : List Nat) : Step Unit :=
            if total = "only" then pure () else process.say (row numbers name)
          match ← process.openInput name with
          | .ok number =>
            let numbers := counts isWide kinds (← readAll number)
            tell numbers
            return (numbers :: all, status)
          | .error refusal =>
            let shown := name.getD "standard input".toList
            if name = some [] then process.complain "invalid zero-length file name".toList
            else process.warn (process.blame shown refusal)
            -- a directory can be opened, after all
            if refusal = .isDirectory then tell (kinds.map fun _ => 0)
            return (all, 1)) (([] : List (List Nat)), 0)
        let showsTotal : Bool := match total with
          | "auto" => 1 < inputs.length
          | "never" => false
          | _ => true
        if showsTotal then
          let sums := kinds.zipIdx.map fun (kind, i) =>
            let column := all.map fun numbers => (numbers[i]?).getD 0
            if kind = 'L' then column.foldl max 0 else column.foldl (· + ·) 0
          process.say (row sums (if total = "only" then none else some "total".toList))
        return status

end CheckedBuild.Machine.Tools
