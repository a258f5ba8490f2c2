import CheckedBuild.Machine.Tools.Files

/-!
# Showing dates

The present or a given point in time is shown as a format says. The clock of the machine cannot be
set.
-/

namespace CheckedBuild.Machine.Tools

open Process

/-- The formats for the words that ask for an international date. -/
def isoFormats : List (String × String) :=
  [("hours", "%Y-%m-%dT%H%:z"), ("minutes", "%Y-%m-%dT%H:%M%:z"), ("date", "%Y-%m-%d"),
   ("seconds", "%Y-%m-%dT%H:%M:%S%:z"), ("ns", "%Y-%m-%dT%H:%M:%S,%N%:z")]

/-- The formats for the words that ask for a date with a blank in it. -/
def spacedFormats : List (String × String) :=
  [("date", "%Y-%m-%d"), ("seconds", "%Y-%m-%d %H:%M:%S%:z"),
   ("ns", "%Y-%m-%d %H:%M:%S.%N%:z")]

/-- The format for a word, of which the first letters suffice. -/
def chosenFormat (process : Process) (formats : List (String × String)) (option : String)
    (word : List Char) : Step (Except Nat (List Char)) := do
  match formats.find? fun entry => word.isPrefixOf entry.1.toList with
  | some (_, format) => return .ok format.toList
  | none =>
    process.complain ("invalid argument ".toList ++ marked word ++ " for '--".toList
      ++ option.toList ++ ['\''])
    process.warn "Valid arguments are:".toList
    formats.forM fun (word, _) => process.warn ("  - ".toList ++ marked word.toList)
    advise process
    return .error 1

/-- Shows a point in time. -/
def showDate (process : Process) (format : List Char) (seconds : Int) (fraction : Nat) :
    Step Unit :=
  process.say (closed ((Text.Calendar.dateOf seconds fraction).written format))

/-- Shows the date that a text stands for. -/
def showRead (process : Process) (format s : List Char) : Step Nat := do
  match Text.Calendar.read? (← presentDate) s with
  | some (seconds, fraction) =>
    showDate process format seconds fraction
    return 0
  | none =>
    process.complain ("invalid date ".toList ++ marked s)
    return 1

/-- The format that the options ask for, or how it failed. -/
def dateFormat (process : Process) (options : Arguments) : Step (Except Nat (List Char)) := do
  let formats := options.options.filter fun o => ['I', 'R', '3', '+'].contains o.1
  match formats with
  | [] => return .ok "%a %b %e %H:%M:%S %Z %Y".toList
  | [('I', word)] =>
    chosenFormat process isoFormats "iso-8601" (if word.isEmpty then "date".toList else word)
  | [('R', _)] => return .ok "%a, %d %b %Y %H:%M:%S %z".toList
  | [('3', word)] => chosenFormat process spacedFormats "rfc-3339" word
  | [(_, format)] => return .ok format
  | _ =>
    process.complain "multiple output formats specified".toList
    return .error 1

/-- Shows the date. -/
def date (process : Process) : Step Nat := do
  -- the value of this option is optional and has to stand in the same argument
  let arguments := process.arguments.map fun
    | '-' :: 'I' :: word => "--iso-8601=".toList ++ word
    | s => s
  let process := { process with arguments }
  let table : OptionTable :=
    { plain := "Ru", valued := "dfrs3"
      words := [("date", 'd'), ("file", 'f'), ("reference", 'r'), ("set", 's'), ("utc", 'u'),
        ("universal", 'u'), ("rfc-email", 'R'), ("rfc-822", 'R'), ("rfc-2822", 'R'),
        ("rfc-3339", '3'), ("iso-8601", 'I')] }
  process.withOptions table 1 fun options => do
    let (formats, others) := options.operands.partition fun s => s.head? = some '+'
    match formats, others with
    | _, _ :: extra :: _ => return ← misuse process ("extra operand ".toList ++ marked extra) 1
    | _ :: extra :: _, _ =>
      return ← misuse process ("extra operand ".toList ++ marked extra) 1
    | _, _ => pure ()
    let chosen := formats.map fun s => ('+', s.drop 1)
    match ← dateFormat process { options with options := options.options ++ chosen } with
    | .error status => return status
    | .ok format =>
      match others with
      | other :: _ =>
        match Text.Calendar.readDigits? (← presentDate) other with
        | some seconds =>
          process.complain "cannot set date: Operation not permitted".toList
          showDate process format seconds 0
        | none => process.complain ("invalid date ".toList ++ marked other)
        return 1
      | [] =>
        match options.value? 'd', options.value? 'r', options.value? 'f', options.value? 's' with
        | some s, none, none, none => showRead process format s
        | none, some name, none, none =>
          match ← nodeAt name with
          | .ok (_, node) =>
            showDate process format (node.changed / 1000000000 : Nat) (node.changed % 1000000000)
            return 0
          | .error refusal =>
            process.warn (process.blame name refusal)
            return 1
        | none, none, some name, none =>
          let (inputs, status) ← process.inputs [name] process.blame
          let lines := bareLines (inputs.flatMap (·.text))
          return max status (← onEach lines (showRead process format))
        | none, none, none, some s =>
          match Text.Calendar.read? (← presentDate) s with
          | some (seconds, fraction) =>
            process.complain "cannot set date: Operation not permitted".toList
            showDate process format seconds fraction
          | none => process.complain ("invalid date ".toList ++ marked s)
          return 1
        | none, none, none, none =>
          let now := (← get).files.now
          showDate process format (now / 1000000000 : Nat) (now % 1000000000)
          return 0
        | _, _, _, _ =>
          misuse process
            "the options to specify dates for printing are mutually exclusive".toList 1

end CheckedBuild.Machine.Tools
