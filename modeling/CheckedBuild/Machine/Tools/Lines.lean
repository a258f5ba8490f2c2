import CheckedBuild.Machine.Tools.Ends
import CheckedBuild.Machine.Tools.Format
import CheckedBuild.Text.Regular.Spelling

/-!
# Tools that copy lines

These tools copy their inputs line by line: as they are, with numbers, backwards, or with the last
line first. Inputs are standard input or the named files.
-/

namespace CheckedBuild.Machine.Tools

open Process

/-- A byte as it is shown when controls are made visible. -/
def visible (c : Char) : List Char :=
  let n := c.toNat
  if c = '\n' || c = '\t' then [c]
  else if n < 32 then ['^', Char.ofNat (n + 64)]
  else if n < 127 then [c]
  else if n = 127 then ['^', '?']
  else if n < 160 then ['M', '-', '^', Char.ofNat (n - 64)]
  else if n < 255 then ['M', '-', Char.ofNat (n - 128)]
  else "M-^?".toList

/-- What is known between two lines that are shown. -/
structure Decoration where
  /-- The number of the next line. -/
  next : Nat := 1
  afterBlank : Bool := false
  /-- The last line has not ended yet. -/
  isOpen : Bool := false

/-- A line in writing that shows what cannot be seen. -/
def shownLine (options : Arguments) : List Char → List Char
  | [] => []
  | ['\r', '\n'] => if options.has 'E' then "^M$\n".toList
    else (if options.has 'v' then "^M".toList else ['\r']) ++ ['\n']
  | c :: rest =>
    let shown :=
      if c = '\n' then (if options.has 'E' then ['$', '\n'] else ['\n'])
      else if c = '\t' then (if options.has 'T' then ['^', 'I'] else ['\t'])
      else if options.has 'v' then visible c else [c]
    shown ++ shownLine options rest

/-- The lines with numbers or made visible. -/
def decorate (options : Arguments) (state : Decoration) (s : List Char) :
    List Char × Decoration :=
  let (text, state) := (linesEndedBy '\n' s).foldl
    (fun ((text, state) : List (List Char) × Decoration) line =>
      let isBlank := line = ['\n'] && !state.isOpen
      if options.has 's' && state.afterBlank && isBlank then (text, state)
      else
        let counts := !state.isOpen && (options.has 'n' || options.has 'b')
          && !(options.has 'b' && isBlank)
        let number := ({ width := 6 } : Format.Field).text (decimal state.next) ++ ['\t']
        (((if counts then number else []) ++ shownLine options line) :: text,
          ⟨if counts then state.next + 1 else state.next, isBlank,
            line.getLast? ≠ some '\n'⟩)) ([], state)
  (text.reverse.flatten, state)

/-- Letters of options that stand for several ones. -/
def spread (groups : List (Char × List Char)) (options : Arguments) : Arguments :=
  { options with
    options := options.options.flatMap fun o =>
      match groups.lookup o.1 with
      | some letters => letters.map fun letter => (letter, o.2)
      | none => [o] }

/-- Whether copying a file to standard output would go on for ever because it is written to
itself. -/
def feedsItself (process : Process) (number : Nat) : Step Bool := do
  let kernel ← get
  match (process.descriptors.lookup 1).map kernel.stream, kernel.stream number with
  | some (.file output), .file input =>
    return input.number = output.number && kernel.isFile number
      && (kernel.files.nodes[input.number]?).any fun node => input.position < node.size
  | _, _ => return false

/-- Copies inputs to standard output as they are. -/
def catPlainly (process : Process) (names : List (List Char)) : Step Nat :=
  onEach (if names.isEmpty then [['-']] else names) fun name => do
    match ← process.openInput (some name) with
    | .error refusal =>
      process.warn (process.blame name refusal)
      return 1
    | .ok number =>
      if ← feedsItself process number then
        process.complain (Quotation.ifNeeded process.isWide [':'] name
          ++ ": input file is output file".toList)
        return 1
      process.copy number
      return 0

/-- Copies inputs, with the lines made visible or numbered. -/
def cat (process : Process) : Step Nat :=
  process.withOptions
    { plain := "nbsETAvetu"
      words := [("number-nonblank", 'b'), ("number", 'n'), ("squeeze-blank", 's'),
        ("show-nonprinting", 'v'), ("show-ends", 'E'), ("show-tabs", 'T'), ("show-all", 'A')] } 1
    fun options => do
      let options :=
        spread [('A', ['v', 'E', 'T']), ('e', ['v', 'E']), ('t', ['v', 'T'])] options
      if (process.descriptors.lookup 1).isNone then
        process.complain ("standard output: " ++ Refusal.badDescriptor.complaint).toList
        return 1
      if options.options.all (·.1 = 'u') then catPlainly process options.operands
      else
        let (_, status) ← process.foldInputs options.operands ({} : Decoration)
          fun state s => do
            let (text, state) := decorate options state s
            process.say text
            return state
        return status

/-! ### Last line first -/

/-- The records of a text, the last one first. Separators belong to the records in front of them,
or to those behind them. -/
def recordsBackwards (leads : Bool) (s : Array Char) (separators : List (Nat × Nat)) :
    List (List Char) :=
  let cuts := (separators.map fun (first, last) => if leads then first else last).filter
    fun cut => 0 < cut && cut < s.size
  let bounds := (s.size :: cuts).zip (cuts ++ [0])
  bounds.map fun (last, first) => (s.extract first last).toList

/-- Where separators begin and end in a text, the last one first. They are looked for from the end
on, and none reaches into the one that was found behind it. -/
def separatorPlaces (expression : Text.Regular.Expression) (s : Array Char) (fuel limit : Nat) :
    Nat → List (Nat × Nat)
  | 0 => []
  | place + 1 =>
    match fuel with
    | 0 => []
    | fuel + 1 =>
      let ends := (Text.Regular.ends s false expression place []).map (·.1)
      match (ends.filter fun last => place < last && last ≤ limit).max? with
      | some last => (place, last) :: separatorPlaces expression s fuel place place
      | none => separatorPlaces expression s fuel limit place

/-- Copies inputs with the last record first. -/
def tac (process : Process) : Step Nat :=
  process.withOptions
    { plain := "br", valued := "s"
      words := [("before", 'b'), ("regex", 'r'), ("separator", 's')] } 1
    fun options => do
      let separator := (options.value? 's').getD ['\n']
      if options.has 'r' && separator.isEmpty then
        process.complain "separator cannot be empty".toList
        return 1
      let separator := if separator.isEmpty then ['\x00'] else separator
      let expression? := if options.has 'r' then Text.Regular.Dialect.basic.parse separator
        else .ok (Text.Regular.literal separator)
      match expression? with
      | .error fault =>
        process.complain fault.message.toList
        return 1
      | .ok expression =>
        let names := if options.operands.isEmpty then [['-']] else options.operands
        collected process names fun name => do
          let shown := if name = ['-'] then "standard input".toList else name
          match ← process.openInput (some name) with
          | .error .isDirectory =>
            process.complain (Quotation.ifNeeded process.isWide [':'] shown
              ++ ": read error: Invalid argument".toList)
            return none
          | .error refusal =>
            process.complain ("failed to open ".toList ++ marked name ++ " for reading: ".toList
              ++ refusal.complaint.toList)
            return none
          | .ok number =>
            let s := (← readAll number).toArray
            let places := separatorPlaces expression s (s.size + 1) s.size s.size
            return some (recordsBackwards (options.has 'b') s places).flatten

/-- Writes every line backwards. -/
def rev (process : Process) : Step Nat :=
  process.withOptions { plain := "0", words := [("zero", '0')] } 1 fun options => do
    let ending := if options.has '0' then '\x00' else '\n'
    let names := if options.operands.isEmpty then [['-']] else options.operands
    collected process names fun name => do
      let opened ← if options.operands.isEmpty then pure process.inputStream
        else process.openFile name
      match opened with
      | .error refusal =>
        process.complain ("cannot open ".toList ++ name ++ ": ".toList
          ++ refusal.complaint.toList)
        return none
      | .ok number =>
        return some ((linesEndedBy ending (← readAll number)).flatMap fun line =>
          if line.getLast? = some ending then line.dropLast.reverse ++ [ending] else line.reverse)

/-! ### Numbered lines -/

/-- Which lines of a section are numbered. -/
inductive Numbered where
  | all
  | filled
  | none
  | matching (expression : Text.Regular.Expression)

/-- The lines that a style asks for. -/
def Numbered.ofStyle? : List Char → Option (Except Text.Regular.Fault Numbered)
  | ['a'] => some (.ok .all)
  | ['t'] => some (.ok .filled)
  | ['n'] => some (.ok .none)
  | 'p' :: pattern =>
    some ((Text.Regular.Dialect.basic.parse pattern).map .matching)
  | _ => Option.none

/-- How lines are numbered. -/
structure Numbering where
  body : Numbered := .filled
  header : Numbered := .none
  footer : Numbered := .none
  start : Int := 1
  step : Int := 1
  width : Nat := 6
  separator : List Char := ['\t']
  /-- How many blank lines count as one. -/
  blanks : Nat := 1
  isLeft : Bool := false
  hasZeros : Bool := false
  goesOn : Bool := false
  delimiter : List Char := ['\\', ':']

namespace Numbering

/-- The number in front of a line. -/
def number (numbering : Numbering) (n : Int) : List Char :=
  let digits := decimal n.natAbs
  let sign : List Char := if n < 0 then ['-'] else []
  let missing := numbering.width - (digits.length + sign.length)
  if numbering.isLeft then sign ++ digits ++ List.replicate missing ' '
  else if numbering.hasZeros then sign ++ List.replicate missing '0' ++ digits
  else List.replicate missing ' ' ++ sign ++ digits

/-- The section that a line begins. -/
def section? (numbering : Numbering) (line : List Char) : Option Numbered :=
  let mark := numbering.delimiter
  if mark.isEmpty then Option.none
  else if line = mark ++ mark ++ mark then some numbering.header
  else if line = mark ++ mark then some numbering.body
  else if line = mark then some numbering.footer
  else Option.none

end Numbering

/-- What is known between two lines. -/
structure NumberingState where
  numbered : Numbered
  next : Int
  blanks : Nat := 0

/-- A line as it is shown, and what is known after it. -/
def numberLine (numbering : Numbering) (state : NumberingState) (line : List Char) :
    List Char × NumberingState :=
  match numbering.section? line with
  | some numbered =>
    (['\n'], { state with
      numbered, next := if numbering.goesOn then state.next else numbering.start })
  | none =>
    let plain : List Char :=
      List.replicate (numbering.width + numbering.separator.length) ' ' ++ closed line
    let told : List Char := numbering.number state.next ++ numbering.separator ++ closed line
    let counted : NumberingState := { state with next := state.next + numbering.step }
    match state.numbered with
    | .none => (plain, state)
    | .filled => if line.isEmpty then (plain, state) else (told, counted)
    | .matching expression =>
      if (Text.Regular.search expression false line.toArray 0).isSome then (told, counted)
      else (plain, state)
    | .all =>
      if numbering.blanks ≤ 1 then (told, counted)
      else if !line.isEmpty then (told, { counted with blanks := 0 })
      else if state.blanks + 1 = numbering.blanks then (told, { counted with blanks := 0 })
      else (plain, { state with blanks := state.blanks + 1 })

/-- An integer in decimal digits. -/
def signedNumber? (s : List Char) : Option Int :=
  match s with
  | '-' :: digits => (Text.natural? digits).map fun n => -(n : Int)
  | '+' :: digits | digits => (Text.natural? digits).map fun n => (n : Int)

/-- What an option changes about the numbering, or what is wrong with it and whether advice is
given. -/
def Numbering.withOption (numbering : Numbering) (letter : Char) (value : List Char) :
    Except (List Char × Bool) Numbering :=
  let wrong (what : String) : List Char := ("invalid " ++ what ++ ": ").toList ++ marked value
  let style (what : String) : Except (List Char × Bool) Numbered :=
    match Numbered.ofStyle? value with
    | some (.ok numbered) => .ok numbered
    | some (.error fault) => .error (fault.message.toList, false)
    | none => .error (wrong (what ++ " numbering style"), true)
  let integer (what : String) : Except (List Char × Bool) Int :=
    match signedNumber? value with
    | some n => .ok n
    | none => .error (wrong what, false)
  let positive (what : String) : Except (List Char × Bool) Nat :=
    match signedNumber? value with
    | some n =>
      if n < 1 then .error (wrong what ++ ": Numerical result out of range".toList, false)
      else .ok n.toNat
    | none => .error (wrong what, false)
  match letter with
  | 'b' => (style "body").map fun body => { numbering with body }
  | 'h' => (style "header").map fun header => { numbering with header }
  | 'f' => (style "footer").map fun footer => { numbering with footer }
  | 'v' => (integer "starting line number").map fun start => { numbering with start }
  | 'i' => (integer "line number increment").map fun step => { numbering with step }
  | 'l' => (positive "line number of blank lines").map fun blanks => { numbering with blanks }
  | 'w' => (positive "line number field width").map fun width => { numbering with width }
  | 's' => .ok { numbering with separator := value }
  | 'p' => .ok { numbering with goesOn := true }
  | 'd' =>
    .ok { numbering with delimiter := if value.length = 1 then value ++ [':'] else value }
  | 'n' =>
    match String.ofList value with
    | "ln" => .ok { numbering with isLeft := true, hasZeros := false }
    | "rn" => .ok { numbering with isLeft := false, hasZeros := false }
    | "rz" => .ok { numbering with isLeft := false, hasZeros := true }
    | _ => .error (wrong "line numbering format", true)
  | _ => .ok numbering

/-- Numbers lines; the inputs have a header, a body and a footer on each page. -/
def nl (process : Process) : Step Nat :=
  process.withOptions
    { plain := "p", valued := "bdfhilnsvw"
      words := [("header-numbering", 'h'), ("body-numbering", 'b'), ("footer-numbering", 'f'),
        ("starting-line-number", 'v'), ("line-increment", 'i'), ("no-renumber", 'p'),
        ("join-blank-lines", 'l'), ("number-separator", 's'), ("number-width", 'w'),
        ("number-format", 'n'), ("section-delimiter", 'd')] } 1
    fun options => do
      let read := options.options.foldlM (fun (numbering : Numbering) (letter, value) =>
        numbering.withOption letter value) {}
      match read with
      | .error (message, true) => misuse process message 1
      | .error (message, false) =>
        process.complain message
        return 1
      | .ok numbering =>
        let start : NumberingState := { numbered := numbering.body, next := numbering.start }
        let (_, status) ← process.foldLines options.operands '\n' start fun state s => do
          let (text, state) := (bareLines s).foldl (fun ((text, state) : List (List Char) × _) line =>
            let (shown, state) := numberLine numbering state line
            (shown :: text, state)) ([], state)
          process.print text.reverse.flatten
          return state
        return status

end CheckedBuild.Machine.Tools
