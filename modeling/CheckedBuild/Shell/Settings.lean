import CheckedBuild.Shell.Builtin

/-!
# Builtin commands on variables

These commands mark, show, remove and read variables, and they set the options and the positional
parameters of the shell.
-/

namespace CheckedBuild.Shell

open CheckedBuild.Machine

/-- The options: a letter and a word for each. -/
def optionNames : List (Char × String) :=
  [('e', "errexit"), ('f', "noglob"), ('I', "ignoreeof"), ('i', "interactive"), ('m', "monitor"),
   ('n', "noexec"), ('s', "stdin"), ('x', "xtrace"), ('v', "verbose"), ('V', "vi"), ('E', "emacs"),
   ('C', "noclobber"), ('a', "allexport"), ('b', "notify"), ('u', "nounset"), ('p', "privileged"), ('l', "nolog"),
   ('d', "debug")]

/-- Switches an option on or off. -/
def switch (option : Char) (on : Bool) : Run Unit :=
  modify fun state =>
    let others := state.options.filter (· ≠ option)
    let options := if on then option :: others else others
    { state with options := ((optionNames.map (·.1)).filter options.contains).reverse }

/-- Switches the option of a letter on or off. -/
def switchLetter (letter : Char) (on : Bool) : Run Unit := do
  if "efIimnsxvVECabu".toList.contains letter then switch letter on
  else fail ("Illegal option ".toList ++ [if on then '-' else '+', letter])

/-- Switches the option of a word on or off. -/
def switchWord (word : List Char) (on : Bool) : Run Unit := do
  match optionNames.find? fun entry => entry.2 = String.ofList word with
  | some (letter, _) => switch letter on
  | none => fail ("Illegal option ".toList ++ (if on then '-' else '+') :: "o ".toList ++ word)

/-- A text filled up with blanks. -/
def padded (width : Nat) (s : List Char) : List Char :=
  s ++ List.replicate (width - s.length) ' '

/-- Shows which options are on, or the commands that would set them. -/
def showOptions (asCommands : Bool) : Run Unit := do
  let state ← get
  if asCommands then
    optionNames.forM fun (letter, word) =>
      print ("set ".toList ++ (if state.isOn letter then '-' else '+') :: "o ".toList
        ++ word.toList ++ ['\n'])
  else
    print "Current option settings\n".toList
    optionNames.forM fun (letter, word) =>
      print (padded 16 word.toList ++ (if state.isOn letter then "on\n" else "off\n").toList)

/-- Takes option settings off the front of the arguments. The result is what follows them, and
whether two dashes ended them. -/
def takeSettings (fuel : Nat) (arguments : List (List Char)) : Run (List (List Char) × Bool) := do
  match fuel with
  | 0 => return (arguments, false)
  | fuel + 1 =>
    match arguments with
    | ['-'] :: rest =>
      switch 'x' false
      switch 'v' false
      return (rest, false)
    | ['-', '-'] :: rest => return (rest, true)
    | (sign :: letters) :: rest =>
      if sign ≠ '-' && sign ≠ '+' then return (arguments, false)
      let on := sign = '-'
      let rest ← letters.foldlM (fun rest letter => do
        if letter = 'o' then
          match rest with
          | word :: rest =>
            switchWord word on
            return rest
          | [] =>
            showOptions (!on)
            return []
        else
          switchLetter letter on
          return rest) rest
      takeSettings fuel rest
    | arguments => return (arguments, false)

/-- The variables in the order of their names. -/
def State.sorted (state : State) : List (List Char × Variable) :=
  state.values.mergeSort fun a b => !decide (b.1 < a.1)

/-- A variable as the shell reads it again. -/
def setting (heading : List Char) (name : List Char) (found : Variable) : List Char :=
  let value := match found.value with
    | some value => '=' :: inQuotes value.length value
    | none => []
  heading ++ name ++ value ++ ['\n']

/-- Shows variables, or sets options and positional parameters. -/
def changeSettings (arguments : List (List Char)) : Run Nat := do
  if arguments.isEmpty then
    let state ← get
    state.sorted.forM fun (name, found) =>
      if found.value.isSome then print (setting [] name found) else pure ()
    return 0
  let (rest, isExplicit) ← takeSettings (arguments.length + 1) arguments
  if isExplicit || !rest.isEmpty then modify fun state => { state with parameters := rest }
  return 0

/-- Drops positional parameters. -/
def shiftParameters (arguments : List (List Char)) : Run Nat := do
  let n ← match arguments with
    | [] => pure 1
    | s :: _ => numberFrom s
  if (← get).parameters.length < n then fail "can't shift that many".toList
  modify fun state => { state with parameters := state.parameters.drop n }
  return 0

/-- Checks the name of a variable. -/
def checkName (name : List Char) : Run Unit := do
  if !isName name then fail (name ++ ": bad variable name".toList)

/-- Marks variables as exported or as not to be changed, or shows those that are. -/
def markVariables (command : String) (arguments : List (List Char)) : Run Nat := do
  let (flags, operands) ← takeFlags "p" arguments
  let exports := command = "export"
  let mark (found : Variable) : Variable :=
    if exports then { found with isExported := true } else { found with isReadOnly := true }
  if flags.isEmpty && !operands.isEmpty then
    for argument in operands do
      let (name, value) := splitAssignment argument
      checkName name
      if argument.contains '=' then assign name value false
      modify fun state =>
        state.put name (some (mark ((state.values.lookup name).getD {})))
  else
    let state ← get
    state.sorted.forM fun (name, found) =>
      if if exports then found.isExported else found.isReadOnly then
        print (setting (command.toList ++ [' ']) name found)
      else pure ()
  return 0

/-- Makes variables local to the running function. -/
def makeLocal (arguments : List (List Char)) : Run Nat := do
  match (← get).locals with
  | [] => fail "not in a function".toList
  | _ =>
    for argument in arguments do
      let (name, value) := splitAssignment argument
      if argument ≠ ['-'] then
        checkName name
        modify fun state =>
          match state.locals with
          | frame :: frames =>
            let frame :=
              if frame.any (·.1 == name) then frame
              else (name, state.values.lookup name) :: frame
            { state with locals := frame :: frames }
          | [] => state
        if argument.contains '=' then assign name value false
    return 0

/-- Puts variables back to what they were. -/
def restore (frame : List (List Char × Option Variable)) : Run Unit :=
  modify fun state => frame.foldl (fun state (name, old) => state.put name old) state

/-- Removes variables or functions. -/
def removeAll (arguments : List (List Char)) : Run Nat := do
  let (flags, names) ← takeFlags "vf" arguments
  for name in names do
    if flags.getLast? = some 'f' then
      modify fun state =>
        { state with functions := state.functions.filter (·.1 != name) }
    else unset name
  return 0

/-- Takes the next option of a function or script; the letters with a colon take a value. -/
def takeOption (arguments : List (List Char)) : Run Nat := do
  match arguments with
  | letters :: variableName :: given =>
    let state ← get
    let all := if given.isEmpty then state.parameters else given
    let index := ((state.value? "OPTIND".toList).bind Text.natural?).getD 1
    let (index, offset) :=
      if all.length + 1 < index then (1, 0) else (max index 1, state.optionOffset)
    let isSilent := letters.head? = some ':'
    let current := if 1 < index && 0 < offset then (all[index - 2]?).map (·.drop offset) else none
    let finish (index offset : Nat) (c : Char) (status : Nat) : Run Nat := do
      assign "OPTIND".toList (decimal index) false
      assign variableName [c] false
      modify fun state => { state with optionOffset := offset }
      return status
    let begin : Option (Char × List Char × Nat) := match current with
      | some (c :: rest) => some (c, rest, index)
      | _ =>
        match all[index - 1]? with
        | some ('-' :: c :: rest) => some (c, rest, index + 1)
        | _ => none
    match begin with
    | none => finish index 0 '?' 1
    | some ('-', [], next) =>
      if (all[next - 2]?) = some ['-', '-'] then finish next 0 '?' 1
      else finish next 0 '?' 0
    | some (c, rest, next) =>
      let offset := if rest.isEmpty then 0 else ((all[next - 2]?).getD []).length - rest.length
      let report (message : String) (code : Char) : Run Char := do
        if isSilent then
          assign "OPTARG".toList [c] false
          return code
        else
          write 2 (message.toList ++ c :: (if code = ':' then " option\n" else "\n").toList)
          unset "OPTARG".toList
          return '?'
      let known := letters.dropWhile (· ≠ c)
      if c = ':' || known.isEmpty then
        finish next offset (← report "Illegal option -" '?') 0
      else if known.tail.head? = some ':' then
        match rest, all[next - 1]? with
        | [], none => finish next 0 (← report "No arg for -" ':') 0
        | [], some value =>
          assign "OPTARG".toList value false
          finish (next + 1) 0 c 0
        | value, _ =>
          assign "OPTARG".toList value false
          finish next 0 c 0
      else
        assign "OPTARG".toList [] false
        finish next offset c 0
  | _ => fail "Usage: getopts optstring var [arg]".toList

/-- The last field of a line: everything up to the end, without the blanks there and without a
single separator that ends it. -/
def lastField (separators : List Char) (s : List Marked) : List Char :=
  let isSeparator (c : Marked) : Bool := !c.2 && separators.contains c.1
  let isBlank (c : Marked) : Bool := isSeparator c && (c.1 = ' ' || c.1 = '\t' || c.1 = '\n')
  let (ending, _, _) := s.zipIdx.foldl (fun (ending, seen, blank) (c, i) =>
    if !seen then if isSeparator c then (some i, true, isBlank c) else (none, false, false)
    else if isBlank c then (some (ending.getD i), true, blank)
    else (if isSeparator c && blank then ending else none, true, false))
    ((none : Option Nat), false, false)
  unmarked (s.take (ending.getD s.length))

/-- Splits a line into at most so many fields. -/
def splitLine (separators : List Char) (count : Nat) (s : List Marked) : List (List Char) :=
  let isBlank (c : Marked) : Bool :=
    !c.2 && separators.contains c.1 && (c.1 = ' ' || c.1 = '\t' || c.1 = '\n')
  let rec go (count : Nat) (s : List Marked) : List (List Char) :=
    let s := s.dropWhile isBlank
    match count with
    | 0 => []
    | 1 => [lastField separators s]
    | count + 1 =>
      let field := s.takeWhile fun c => c.2 || !separators.contains c.1
      let rest := s.drop field.length
      let spaced := rest.dropWhile isBlank
      let rest := match spaced with
        | c :: tail => if !c.2 && separators.contains c.1 then tail else spaced
        | [] => []
      unmarked field :: go count rest
  go count s

/-- Reads a line of a stream as it comes; `before` are the pieces so far, the last one first. The
result tells whether the line is complete, which it is not if a signal comes. -/
def takeLine (fuel number : Nat) (before : List Bytes) : Run (Bytes × Bool) := do
  match fuel with
  | 0 => return (before.reverse.flatten, false)
  | fuel + 1 =>
    let state ← get
    if state.kernel.isDry number then
      Strand.pause
        { isOver := fun kernel => !kernel.isDry number || kernel.hasSignals state.self }
    let kernel := (← get).kernel
    if kernel.isDry number then return (before.reverse.flatten, false)
    let ((line, isComplete), kernel) := kernel.readLine number
    modify fun state => { state with kernel }
    if isComplete || line.isEmpty then return ((line :: before).reverse.flatten, isComplete)
    takeLine fuel number (line :: before)

/-- Reads a line character by character; a backslash quotes the next character unless the line is
taken as it is. The result tells whether the line was complete. -/
def readMarked (raw : Bool) (fuel : Nat) (number : Nat) (reversed : List Marked) :
    Run (List Marked × Bool) := do
  match fuel with
  | 0 => return (reversed.reverse, false)
  | fuel + 1 =>
    let (bytes, complete) ← takeLine pieceLimit number []
    let line := (rawOfBytes bytes).filter (· ≠ '\x00')
    let (reversed, quotes) := line.foldl (fun (reversed, quotes) c =>
      if quotes then ((c, true) :: reversed, false)
      else if c = '\\' && !raw then (reversed, true)
      else ((c, false) :: reversed, false)) (reversed, false)
    if quotes && complete then readMarked raw fuel number reversed
    else return (reversed.reverse, complete)

/-- Reads a line of standard input into variables. -/
def readVariables (arguments : List (List Char)) : Run Nat := do
  let letters ← takeOptions "r" "p" (arguments.length + 1) arguments
  if letters.operands.isEmpty then fail "arg count".toList
  let raw := letters.options.any (·.1 == 'r')
  let (line, complete) ←
    match (← get).descriptors.lookup 0 with
    | some number => readMarked raw 65536 number []
    | none => pure ([], false)
  let fields := splitLine (← get).separators letters.operands.length line
  for (name, i) in letters.operands.zipIdx do
    checkName name
    assign name ((fields[i]?).getD []) false
  return if complete then 0 else 1

end CheckedBuild.Shell
