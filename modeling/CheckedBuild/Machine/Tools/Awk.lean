import CheckedBuild.Records.Evaluate
import CheckedBuild.Records.Grammar

/-!
# Programs for records

A program is given as an argument or in files. What comes after it are inputs and assignments,
which are carried out when their turn comes.
-/

namespace CheckedBuild.Machine.Tools

open Process

/-- Why the options allow no program to be run. -/
inductive RecordRefusal where
  /-- An option stands last, and its value is not there. -/
  | lacksArgument (option : List Char)
  | unknown (option : List Char)
  | improperSetting (s : List Char)
  /-- A special option has no value. -/
  | lacksValue (word : String)
  | noNumber (s : List Char)

/-- The refusal in words. -/
def RecordRefusal.complaint : RecordRefusal → List Char
  | .lacksArgument option => "option ".toList ++ option ++ " lacks argument".toList
  | .unknown option => "not an option: ".toList ++ option
  | .improperSetting s => "improper assignment: -v ".toList ++ s
  | .lacksValue word => ("missing value for -W \"" ++ word ++ "\"").toList
  | .noNumber s => "invalid numeric option: \"".toList ++ s ++ ['"']

/-- What is asked for instead of running a program. -/
inductive RecordNotice where
  | usage
  | version

/-- What the arguments say: assignments before the start, the files of the program, and the rest. -/
structure RecordOptions where
  settings : List (List Char × List Char) := []
  files : List (List Char) := []
  rest : List (List Char) := []
  /-- Special options that do not exist. -/
  vacuous : List (List Char) := []
  notice : Option RecordNotice := none
  refusal : Option RecordRefusal := none

/-- A special option: its word, and the value behind an equals sign. -/
def specialOption? (s : List Char) : Option (String × Option (List Char)) :=
  let word := s.takeWhile (· ≠ '=')
  let given := s.drop word.length
  (words.find? fun known => (word.map Char.toLower).isPrefixOf known.toList).map fun known =>
    (known, if given.isEmpty then none else some (given.drop 1))
where
  /-- The words of the special options; the beginning of one is enough. -/
  words : List String :=
    ["version", "dump", "help", "interactive", "exec", "posix", "random", "sprintf",
     "traditional", "usage"]

/-- A setting of a variable: its name and its value. -/
def recordSetting? (s : List Char) : Option (List Char × List Char) :=
  let name := s.takeWhile (· ≠ '=')
  if Records.isName name && name.length < s.length then some (name, s.drop (name.length + 1))
  else none

/-- Sorts the arguments; what is found is added to the options. -/
def RecordOptions.add (fuel : Nat) (options : RecordOptions) (arguments : List (List Char)) :
    RecordOptions :=
  match fuel with
  | 0 => options
  | fuel + 1 =>
    let refused (refusal : RecordRefusal) : RecordOptions :=
      { options with refusal := some refusal }
    let special (s : List Char) (rest : List (List Char)) : RecordOptions :=
      match specialOption? s with
      | none => { options with vacuous := options.vacuous ++ [s] }.add fuel rest
      | some ("version", _) => { options with notice := some .version }
      | some ("help", _) | some ("usage", _) => { options with notice := some .usage }
      | some ("exec", _) =>
        match rest with
        | file :: rest => { options with files := options.files ++ [file], rest }
        | [] => options
      | some (word, given?) =>
        if word = "random" || word = "sprintf" then
          let value? := given? <|> rest.head?
          let rest := if given?.isSome then rest else rest.drop 1
          match value? with
          | none => refused (.lacksValue word)
          | some value =>
            if value.isEmpty || !value.all Char.isDigit then refused (.noNumber value)
            else options.add fuel rest
        else options.add fuel rest
    let take (option : Char) (value : List Char) (rest : List (List Char)) : RecordOptions :=
      match option with
      | 'F' => { options with settings := options.settings ++ [(['F', 'S'], value)] }.add fuel rest
      | 'v' =>
        match recordSetting? value with
        | some setting => { options with settings := options.settings ++ [setting] }.add fuel rest
        | none => refused (.improperSetting value)
      | 'f' => { options with files := options.files ++ [value] }.add fuel rest
      | _ =>
        match Text.pieces ',' value with
        | [] | [[]] => options.add fuel rest
        | [s] => special s rest
        | several =>
          options.add fuel (several.map ("-W".toList ++ ·) ++ rest)
    match arguments with
    | ['-', '-'] :: rest => { options with rest }
    | ('-' :: '-' :: s) :: rest =>
      match specialOption? s with
      | some _ => special s rest
      | none => refused (.unknown ('-' :: '-' :: s))
    | ['-', c] :: rest =>
      if !(['F', 'v', 'f', 'W'].contains c) then refused (.unknown ['-', c])
      else
        match rest with
        | value :: rest => take c value rest
        | [] => refused (.lacksArgument ['-', c])
    | ('-' :: c :: value) :: rest =>
      if !(['F', 'v', 'f', 'W'].contains c) then refused (.unknown ('-' :: c :: value))
      else take c value rest
    | rest => { options with rest }

/-- The text of the program, and the arguments that come after it. -/
def programText (process : Process) (options : RecordOptions) :
    Step (Except (List Char) (Option (List Char) × List (List Char))) := do
  let texts ← options.files.mapM fun name => do
    match ← openFile process (if name = ['-'] then "/dev/stdin".toList else name) with
    | .error refusal => return Except.error (Records.notOpened name "" refusal)
    | .ok number =>
      match ← readRefusal? number with
      | some refusal => return .error (Records.notRead refusal)
      | none => return .ok (← readAll number)
  match texts.mapM fun (text : Except (List Char) (List Char)) => text, options.rest with
  | .error message, _ => return .error message
  | .ok [], [] | .ok [], [['-']] => return .ok (none, [])
  | .ok [], text :: rest => return .ok (some text, rest)
  | .ok texts, rest => return .ok (some (Text.joinWith ['\n'] texts), rest)

/-- Prepares the variables of a program. -/
def prepare (settings : List (List Char × List Char)) (arguments : List (List Char)) :
    Records.Run Unit := do
  let plain := [("FS", " "), ("OFS", " "), ("ORS", "\n"), ("RS", "\n"), ("SUBSEP", "\x1c"),
    ("CONVFMT", "%.6g"), ("OFMT", "%.6g"), ("FILENAME", "")]
  plain.forM fun (name, value) => Records.setPlain name (.text value.toList)
  ["NR", "FNR", "RSTART"].forM fun name => Records.setPlain name (.number 0)
  Records.setPlain "RLENGTH" (.number (-1))
  Records.setPlain "ARGC" (.number (Float.ofNat arguments.length))
  let table ← Records.tableOf "ARGV".toList
  Records.setTable table (arguments.zipIdx.map fun (s, i) => (decimal i, .ofInput s))
  let environment ← Records.tableOf "ENVIRON".toList
  Records.setTable environment ((← get).process.given.map fun s =>
    let name := s.takeWhile (· ≠ '=')
    (name, .ofInput (s.drop (name.length + 1))))
  settings.forM fun (name, value) => do
    let value := (Format.unescape value).1
    Records.preset name (if name = "FS".toList then .text value else .ofInput value)

/-- The place in the input as messages give it. -/
def placeOf (state : Records.State) : List Char :=
  let text (name : String) : List Char := (state.plain name).toText state.format
  "\tFILENAME=\"".toList ++ text "FILENAME" ++ "\" FNR=".toList ++ text "FNR"
    ++ " NR=".toList ++ text "NR"

/-- Runs a program with the arguments that come after it. -/
def runRecords (starter : Starter) (process : Process) (options : RecordOptions)
    (program : Records.Program) (arguments : List (List Char)) : Step Nat := do
  let said := process.shortName
  let fail (message : List Char) : Step Unit := process.warn (said ++ ": ".toList ++ message)
  let state (kernel : Kernel) : Records.State :=
    { kernel, process, starter, functions := program.functions }
  let step : Records.Run Unit := do
    prepare options.settings (said :: arguments)
    Records.run program
  match ← step.report state with
  | (.error (.fault message), after) =>
    fail message
    process.warn (placeOf after)
    return 2
  | (.error (.broken message), _) =>
    fail message
    return 2
  | (.error (.ended ending), _) => throw ending
  | (.ok _, after) | (.error _, after) => return after.status

/-- What programs for records are called with. -/
def recordUsage : List String :=
  ["Usage: mawk [Options] [Program] [file ...]", "", "Program:",
   "    The -f option value is the name of a file containing program text.",
   "    If no -f option is given, a \"--\" ends option processing; the following",
   "    parameters are the program text.", "", "Options:",
   "    -f program-file  Program  text is read from file instead of from the",
   "                     command-line.  Multiple -f options are accepted.",
   "    -F value         sets the field separator, FS, to value.",
   "    -v var=value     assigns value to program variable var.",
   "    --               unambiguous end of options.", "",
   "    Implementation-specific options are prefixed with \"-W\".  They can be",
   "    abbreviated:", "",
   "    -W version       show version information and exit.",
   "    -W compat        pre-POSIX 2001.",
   "    -W dump          show assembler-like listing of program and exit.",
   "    -W help          show this message and exit.",
   "    -W interactive   set unbuffered output, line-buffered input.",
   "    -W exec file     use file as program as well as last option.",
   "    -W posix         stricter POSIX checking.",
   "    -W random=number set initial random seed.",
   "    -W sprintf=number adjust size of sprintf buffer.",
   "    -W usage         show this message and exit."]

/-- Runs a program on records. -/
def awk (starter : Starter) (process : Process) : Step Nat := do
  let said := process.shortName
  let note (message : List Char) : Step Unit := process.warn (said ++ ": ".toList ++ message)
  if process.arguments.isEmpty then
    recordUsage.forM fun line => process.warn line.toList
    return 0
  let fuel := process.arguments.foldl (fun total argument => total + argument.length + 1) 1
  let options := ({} : RecordOptions).add fuel process.arguments
  options.vacuous.forM fun s => note ("vacuous option: -W \"".toList ++ s ++ ['"'])
  match options.refusal, options.notice with
  | some refusal, _ =>
    note refusal.complaint
    return 2
  | none, some .usage =>
    process.say (recordUsage.flatMap fun line => line.toList ++ ['\n'])
    return 0
  | none, some .version =>
    process.say "mawk 1.3.4 20240123\n".toList
    return 0
  | none, none =>
    match ← programText process options with
    | .error message =>
      note message
      return 2
    | .ok (none, _) => return 0
    | .ok (some text, arguments) =>
      match Records.programOf (options.settings.map (·.1)) text with
      | .error faults =>
        faults.forM fun fault => note fault.message
        return 2
      | .ok program => runRecords starter process options program arguments

end CheckedBuild.Machine.Tools
