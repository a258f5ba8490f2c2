import CheckedBuild.Machine.Tools.Format
import CheckedBuild.Machine.Tools.Runners

/-!
# Commands built from words

The words that an input holds become the last arguments of a command: as many as there is room
for, a given number of them, or those of a given number of lines. Instead, each line can be put
into the command where a mark stands.
-/

namespace CheckedBuild.Machine.Tools

open Process

/-! ### Words of an input -/

/-- A word of an input, and whether a line ends with it. -/
structure InputWord where
  text : List Char
  endsLine : Bool := false

/-- Words that have been read, and the quotation mark that is missing behind them. -/
structure InputWords where
  words : List InputWord := []
  unclosed : Option Char := none

/-- Puts a word in front of others. -/
def InputWords.cons (word : InputWord) (words : InputWords) : InputWords :=
  { words with words := word :: words.words }

/-- Where a reader of words stands. -/
inductive WordPlace where
  | between
  | inside
  | quoted (mark : Char)
  | escaped
deriving DecidableEq, Repr

/-- A word that is being read: its last character comes first. -/
structure WordSoFar where
  letters : List Char := []
  /-- There is a word even if it has no characters. -/
  isSure : Bool := false

/-- Reads words. Blanks end them unless whole lines are read; a line ends where no blank stands
in front of its line feed. A word that marks the end of the input is the last one. -/
def readWords (byLines : Bool) (last : Option (List Char)) (place : WordPlace)
    (word : WordSoFar) (before : Char) : List Char → InputWords
  | [] =>
    match place with
    | .quoted mark => if word.letters.isEmpty then {} else { unclosed := some mark }
    | _ =>
      let text := word.letters.reverse
      if text.isEmpty || last = some text then {} else { words := [⟨text, false⟩] }
  | c :: rest =>
    let isBlank (c : Char) : Bool := c = ' ' || c = '\t'
    let isSpace (c : Char) : Bool := c = ' ' || ('\t' ≤ c && c ≤ '\r')
    let ended (endsLine : Bool) : InputWords :=
      let text := word.letters.reverse
      if last = some text then {}
      else (readWords byLines last .between {} c rest).cons ⟨text, endsLine⟩
    let more (place : WordPlace) (word : WordSoFar) : InputWords :=
      readWords byLines last place word c rest
    let add : WordSoFar := { word with letters := c :: word.letters }
    match place with
    | .quoted mark =>
      if c = '\n' then { unclosed := some mark }
      else if c = mark then more .inside { word with isSure := true }
      else more place add
    | .escaped => more .inside add
    | _ =>
      if place = .between && isSpace c then more .between word
      else if c = '\n' then
        if word.letters.isEmpty && !word.isSure then more .between word
        else ended (!isBlank before)
      else if !byLines && isBlank c then ended false
      else if c = '\\' then more .escaped word
      else if c = '"' || c = '\'' then more (.quoted c) word
      else more .inside add

/-- The words between delimiters. -/
def delimitedWords (delimiter : Char) (s : List Char) : InputWords :=
  let pieces := Text.pieces delimiter s
  let pieces := if pieces.getLast? = some [] then pieces.dropLast else pieces
  { words := pieces.map fun text => ⟨text, true⟩ }

/-! ### Options -/

/-- How commands are built. -/
structure CommandPlan where
  wordsEach : Option Nat := none
  linesEach : Option Nat := none
  /-- The mark that lines take the place of. -/
  mark : Option (List Char) := none
  delimiter : Option Char := none
  last : Option (List Char) := none
  room : Nat := 131072

/-- The delimiter that an escape sequence or a single character stands for. -/
def delimiterOf (s : List Char) : Except (List Char) Char :=
  match s with
  | [c] => .ok c
  | '\\' :: c :: rest =>
    let named : Option Char := match c with
      | 'a' => some '\x07'
      | 'b' => some '\x08'
      | 'f' => some '\x0c'
      | 'n' => some '\n'
      | 'r' => some '\r'
      | 't' => some '\t'
      | 'v' => some '\x0b'
      | '\\' => some '\\'
      | _ => none
    let wrong (reason : String) : Except (List Char) Char :=
      .error ("Invalid escape sequence ".toList ++ s ++ " in input delimiter specification".toList
        ++ reason.toList)
    match named, rest with
    | some c, [] => .ok c
    | _, _ =>
      let (base, digits, most) := if c = 'x' then (16, rest, "ff") else (8, c :: rest, "377")
      let isHexadecimal := c = 'x'
      if !isHexadecimal && !c.isDigit then wrong "."
      else
        let (value, left) := Format.digitsValue base digits.length digits
        if 255 < value then wrong ("; character values must not exceed " ++ most ++ ".")
        else if left.isEmpty then .ok (Char.ofNat value)
        else
          wrong ("; trailing characters " ++ String.ofList left ++ " not recognised.")
  | _ =>
    .error ("Invalid input delimiter specification ".toList ++ s
      ++ ": the delimiter must be either a single character or an escape sequence ".toList
      ++ "starting with \\.".toList)

/-- Changes a plan as an option asks for. Ways to build commands that exclude each other are
reported, and the earlier one is dropped. -/
def CommandPlan.withOption (process : Process) (plan : CommandPlan) (letter : Char)
    (value : List Char) : Step (Except Nat CommandPlan) := do
  let number (least : Nat) (isGrave : Bool) (use : Nat → Step CommandPlan) :
      Step (Except Nat CommandPlan) := do
    let (negative, digits) := match value with
      | '-' :: digits => (true, digits)
      | digits => (false, digits)
    match Text.natural? digits with
    | none =>
      return .error (← misuse process
        ("invalid number \"".toList ++ value ++ "\" for -".toList ++ letter
          :: " option".toList) 1)
    | some n =>
      if (negative && n ≠ 0) || n < least then
        let message := "value ".toList ++ value ++ " for -".toList ++ letter
          :: " option should be >= ".toList ++ decimal least
        if isGrave then return .error (← misuse process message 1)
        process.complain message
        return .ok (← use least)
      return .ok (← use n)
  let exclude (isSet : Bool) (old new : String) : Step Unit := do
    if isSet then
      process.complain ("warning: options ".toList ++ old.toList ++ " and ".toList ++ new.toList
        ++ " are mutually exclusive, ignoring previous ".toList ++ old.toList
        ++ " value".toList)
  let byLines (name : String) (plan : CommandPlan) (n : Nat) : Step CommandPlan := do
    exclude plan.wordsEach.isSome "--max-args" name
    exclude plan.mark.isSome "--replace" name
    return { plan with linesEach := some n, wordsEach := none, mark := none }
  match letter with
  | '0' => return .ok { plan with delimiter := some '\x00' }
  | 'd' =>
    match delimiterOf value with
    | .ok c => return .ok { plan with delimiter := some c }
    | .error message =>
      process.complain message
      return .error 1
  | 'E' | 'e' => return .ok { plan with last := if value.isEmpty then none else some value }
  | 'I' | 'i' =>
    exclude plan.wordsEach.isSome "--max-args" "--replace/-I/-i"
    exclude plan.linesEach.isSome "--max-lines" "--replace/-I/-i"
    let mark := if letter = 'i' && value.isEmpty then ['\x7b', '\x7d'] else value
    return .ok { plan with mark := some mark, wordsEach := none, linesEach := none }
  | 'L' => number 1 true (byLines "-L" plan)
  | 'l' =>
    if value.isEmpty then return .ok (← byLines "--max-lines/-l" plan 1)
    number 1 true (byLines "--max-lines/-l" plan)
  | 'n' =>
    number 1 true fun n => do
      -- a single word for each command is what a mark asks for anyway
      if n = 1 && plan.mark.isSome then return plan
      exclude plan.linesEach.isSome "--max-lines" "--max-args/-n"
      exclude plan.mark.isSome "--replace" "--max-args/-n"
      return { plan with wordsEach := some n, linesEach := none, mark := none }
  | 's' => number 1 false fun room => return { plan with room }
  | 'P' => number 0 true fun _ => return plan
  | _ => return .ok plan

/-! ### Running -/

/-- How much room a command takes. -/
def roomOf (command : List (List Char)) : Nat :=
  command.foldl (fun total s => total + s.length + 1) 0

/-- Why no more commands are run. -/
inductive CommandStop where
  | message (text : String)
  | unclosed (mark : Char)

/-- The complaint that goes with a stop. -/
def CommandStop.complaint : CommandStop → List Char
  | .message text => text.toList
  | .unclosed mark =>
    "unmatched ".toList ++ (if mark = '"' then "double" else "single").toList
      ++ " quote; by default quotes are special to xargs unless you use the -0 option".toList

/-- Words in groups, one for each command, and why there are no more. The group so far is
reversed, and so many lines have ended in it. -/
def CommandPlan.group (plan : CommandPlan) (exits : Bool) (initial : Nat)
    (sofar : List (List Char)) (lines : Nat) (unclosed : Option Char) :
    List InputWord → List (List (List Char)) × Option CommandStop
  | [] =>
    let stop := unclosed.map .unclosed
    if sofar.isEmpty then ([], stop) else ([sofar.reverse], stop)
  | word :: rest =>
    if plan.room < word.text.length + initial + 1 then
      ([], some (.message "argument line too long"))
    else
      let isFull := plan.room < initial + roomOf sofar + word.text.length + 1
      if isFull && exits && (plan.linesEach.isSome || plan.wordsEach.isSome) then
        ([], some (.message "argument list too long"))
      else
        let finished := if isFull && !sofar.isEmpty then [sofar.reverse] else []
        let sofar := word.text :: (if isFull then [] else sofar)
        let lines := if word.endsLine then lines + 1 else lines
        let isDone := plan.wordsEach.any (· ≤ sofar.length) || plan.linesEach.any (· ≤ lines)
        let (more, stop) := if isDone then plan.group exits initial [] 0 unclosed rest
          else plan.group exits initial sofar lines unclosed rest
        (finished ++ (if isDone then [sofar.reverse] else []) ++ more, stop)

/-- Runs a command. The status so far is kept unless the command does worse. -/
def runBuilt (starter : Starter) (process inner : Process) (tells : Bool) (status : Nat)
    (command : List (List Char)) : Step Nat := do
  if 124 ≤ status then return status
  if tells then
    process.warn (Text.joinWith [' '] (command.map (Quotation.ifNeeded process.isWide [])))
  let name := command.headD []
  match ← tryCommand starter { inner with name := process.name } (fun name => name) name
      command.tail with
  | .error refusal => return statusOf refusal
  | .ok code =>
    match Ending.ofCode code with
    | .exited 0 => return status
    | .exited 255 =>
      process.complain (name ++ ": exited with status 255; aborting".toList)
      return 124
    | .exited _ => return 123
    | .killed signal =>
      process.complain (name ++ ": terminated by signal ".toList ++ decimal signal)
      return 125

/-- Runs a program with the words that an input holds as its last arguments. -/
def xargs (starter : Starter) (process : Process) : Step Nat :=
  process.withOptions
    { plain := "0rtxpo", valued := "nILdPsEaα", attached := "eil", strict := true
      words := [("null", '0'), ("arg-file", 'a'), ("delimiter", 'd'), ("eof", 'e'),
        ("replace", 'i'), ("max-lines", 'l'), ("max-args", 'n'), ("interactive", 'p'),
        ("no-run-if-empty", 'r'), ("max-chars", 's'), ("verbose", 't'), ("exit", 'x'),
        ("max-procs", 'P'), ("open-tty", 'o'), ("process-slot-var", 'α')] } 1
    fun options => do
      let read ← options.options.foldlM (fun (plan : Except Nat CommandPlan) (letter, value) =>
        match plan with
        | .ok plan => plan.withOption process letter value
        | .error status => return .error status) (.ok {})
      match read with
      | .error status => return status
      | .ok plan =>
        if plan.delimiter.isSome && plan.last.isSome then
          process.complain "warning: the -E option has no effect if -0 or -d is used.\n".toList
        let command := if options.operands.isEmpty then ["echo".toList] else options.operands
        let initial := roomOf command
        if plan.room < initial then
          process.complain
            "cannot fit single argument within argument list size limit".toList
          return 1
        match ← process.openInput (options.value? 'a') with
        | .error .isDirectory =>
          process.complain "error closing file".toList
          return 1
        | .error refusal =>
          process.complain ("Cannot open input file ".toList
            ++ marked ((options.value? 'a').getD []) ++ ": ".toList
            ++ refusal.complaint.toList)
          return 1
        | .ok number =>
          let s ← readAll number
          let words := match plan.delimiter with
            | some c => delimitedWords c s
            | none => readWords plan.mark.isSome plan.last .between {} '\n' s
          let isZero (word : InputWord) : Bool := word.text.contains '\x00'
          if plan.delimiter.isNone && words.words.any isZero then
            process.complain ("WARNING: a NUL character occurred in the input.  It cannot be "
              ++ "passed through in the argument list.  Did you mean to use the --null "
              ++ "option?").toList
          let items := words.words.map fun (word : InputWord) =>
            { word with text := word.text.takeWhile (· ≠ '\x00') }
          let (groups, stop) : List (List (List Char)) × Option CommandStop := match plan.mark with
            | some mark =>
              if mark.isEmpty && !items.isEmpty then
                ([], some (CommandStop.message "command too long"))
              else
                (items.map fun (item : InputWord) => command.take 1 ++ (command.drop 1).map
                    fun (s : List Char) => replaced (s.length + 1) mark item.text s,
                  words.unclosed.map .unclosed)
            | none =>
              let (groups, stop) :=
                plan.group (options.has 'x') initial [] 0 words.unclosed items
              (groups.map (command ++ ·), stop)
          let groups :=
            if groups.isEmpty && stop.isNone && plan.mark.isNone && !options.has 'r' then
              [command]
            else groups
          -- what is run does not read the words
          let inner : Process ←
            if options.has 'a' then pure process
            else do
              let (number, kernel) := (← get).openStream .null
              set kernel
              let others := process.descriptors.filter (·.1 != 0)
              pure { process with descriptors := (0, number) :: others }
          let inner := match options.value? 'α' with
            | some name =>
              { inner with given := withSetting inner.given (name ++ "=0".toList) }
            | none => inner
          let status ← groups.foldlM
            (runBuilt starter process inner (options.has 't')) 0
          match stop with
          | some stop =>
            if 124 ≤ status then return status
            process.complain stop.complaint
            return 1
          | none => return status

end CheckedBuild.Machine.Tools
