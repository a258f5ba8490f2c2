import CheckedBuild.Machine.Tools.Operands

/-!
# Joining files by a field

Two inputs whose lines are sorted by a field are joined: each line of the first one goes with every
line of the second one that has the same field. Lines without a partner can be shown as well.
-/

namespace CheckedBuild.Machine.Tools

open Process

/-- A field of a joined line: the common one, or one of the lines of an input. -/
inductive JoinedField where
  | common
  | own (isSecond : Bool) (index : Nat)

/-- How inputs are joined. -/
structure Joining where
  /-- The places of the common field in the lines of both inputs. -/
  first : Nat := 0
  second : Nat := 0
  separator : Option Char := none
  ignoresCase : Bool := false
  /-- What stands for an empty field. -/
  filler : List Char := []
  /-- The fields of a joined line, if they are chosen. -/
  fields : Option (List JoinedField) := none
  showsPairs : Bool := true
  /-- Whether lines without a partner are shown. -/
  showsFirst : Bool := false
  showsSecond : Bool := false
  /-- Whether the order of lines is checked; otherwise it is once a line has no partner. -/
  checks : Option Bool := none
  ending : Char := '\n'

/-- A line with its fields. -/
structure JoinLine where
  number : Nat
  text : List Char
  fields : Array (List Char)

namespace Joining

/-- The fields of a line. -/
def split (joining : Joining) (line : List Char) : List (List Char) :=
  let isBlank (c : Char) : Bool := c = ' ' || c = '\t' || c = '\n'
  match joining.separator with
  | some '\n' => [line]
  | some separator => if line.isEmpty then [] else Text.pieces separator line
  | none => (line.splitBy fun a b => isBlank a = isBlank b).filter fun run => !run.any isBlank

/-- The lines of an input. -/
def linesOf (joining : Joining) (s : List Char) : List JoinLine :=
  let lines := Text.pieces joining.ending s
  let lines := if lines.getLast? = some [] then lines.dropLast else lines
  lines.zipIdx.map fun (text, i) => ⟨i + 1, text, (joining.split text).toArray⟩

/-- The common field of a line. -/
def keyOf (joining : Joining) (isSecond : Bool) (line : JoinLine) : List Char :=
  (line.fields[if isSecond then joining.second else joining.first]?).getD []

/-- Compares common fields. -/
def compareKeys (joining : Joining) (a b : List Char) : Ordering :=
  if joining.ignoresCase then compare (a.map Char.toUpper) (b.map Char.toUpper) else compare a b

/-- The line for a pair of lines, or for a line without a partner. -/
def joined (joining : Joining) (left right : Option JoinLine) : List Char :=
  let between := joining.separator.getD ' '
  let between := if between = '\n' then ' ' else between
  let key := match left, right with
    | some line, _ => joining.keyOf false line
    | none, some line => joining.keyOf true line
    | none, none => []
  let filled (s : List Char) : List Char := if s.isEmpty then joining.filler else s
  let others (isSecond : Bool) (line : Option JoinLine) : List (List Char) :=
    match line with
    | some line =>
      let place := if isSecond then joining.second else joining.first
      (line.fields.toList.zipIdx.filter fun (_, i) => i ≠ place).map fun (s, _) => filled s
    | none => []
  let shown := match joining.fields with
    | some fields => fields.map fun
      | .common => filled key
      | .own isSecond index =>
        filled ((((if isSecond then right else left).bind (·.fields[index]?))).getD [])
    | none => filled key :: others false left ++ others true right
  Text.joinWith [between] shown ++ [joining.ending]

end Joining

/-- What has been found out while inputs are joined. -/
structure JoinState where
  seenAlone : Bool := false
  /-- Whether it has been reported that an input is not sorted. -/
  firstReported : Bool := false
  secondReported : Bool := false
  /-- Whether that has ended the joining. -/
  isOver : Bool := false

/-- Reports a line that stands behind one that should come after it. -/
def checkSorted (process : Process) (joining : Joining) (name : List Char) (isSecond : Bool)
    (state : JoinState) (line : JoinLine) (next : Option JoinLine) : Step JoinState := do
  let isReported := if isSecond then state.secondReported else state.firstReported
  let isChecked := match joining.checks with
    | some checks => checks
    | none => state.seenAlone
  match next with
  | none => return state
  | some next =>
    if isReported || !isChecked then return state
    let key := joining.keyOf isSecond
    if joining.compareKeys (key line) (key next) = .gt then
      process.complain (name ++ ':' :: decimal next.number ++ ": is not sorted: ".toList
        ++ next.text)
      let state := { state with isOver := joining.checks = some true }
      return if isSecond then { state with secondReported := true }
        else { state with firstReported := true }
    return state

/-- The names of two inputs. -/
abbrev InputNames := List Char × List Char

/-- Passes over the lines at the start of an input that have the same common field, which is
checked for each following line. -/
def passSame (process : Process) (joining : Joining) (name : List Char) (isSecond : Bool)
    (key : List Char) (state : JoinState) :
    List JoinLine → Step (JoinState × List JoinLine)
  | line :: rest => do
    if !state.isOver && joining.compareKeys (joining.keyOf isSecond line) key = .eq then
      let state ← checkSorted process joining name isSecond state line rest.head?
      passSame process joining name isSecond key state rest
    else return (state, line :: rest)
  | [] => return (state, [])

/-- Passes over the lines that are left of an input, which have no partners. -/
def passAlone (process : Process) (joining : Joining) (name : List Char) (isSecond shows : Bool)
    (state : JoinState) : List JoinLine → Step JoinState
  | line :: rest => do
    if state.isOver then return state
    if shows then
      process.say (if isSecond then joining.joined none (some line)
        else joining.joined (some line) none)
    let state ← checkSorted process joining name isSecond state line rest.head?
    passAlone process joining name isSecond shows state rest
  | [] => return state

/-- Joins lines. -/
def joinLines (process : Process) (joining : Joining) (names : InputNames) (fuel : Nat)
    (state : JoinState) (left right : List JoinLine) : Step JoinState := do
  match fuel, left, right with
  | fuel + 1, a :: as, b :: bs =>
    if state.isOver then return state
    let key := joining.keyOf false a
    match joining.compareKeys key (joining.keyOf true b) with
    | .lt =>
      if joining.showsFirst then process.say (joining.joined (some a) none)
      let state ← checkSorted process joining names.1 false state a as.head?
      joinLines process joining names fuel { state with seenAlone := true } as right
    | .gt =>
      if joining.showsSecond then process.say (joining.joined none (some b))
      let state ← checkSorted process joining names.2 true state b bs.head?
      joinLines process joining names fuel { state with seenAlone := true } left bs
    | .eq =>
      let same (isSecond : Bool) (line : JoinLine) : Bool :=
        joining.compareKeys (joining.keyOf isSecond line) key = .eq
      let pairs := (left.takeWhile (same false)).flatMap fun a =>
        (right.takeWhile (same true)).map fun b => joining.joined (some a) (some b)
      let (state, left) ← passSame process joining names.1 false key state left
      let (state, right) ← passSame process joining names.2 true key state right
      if joining.showsPairs && !state.isOver then process.say pairs.flatten
      joinLines process joining names fuel state left right
  | _, left, right =>
    let state := { state with
      seenAlone := state.seenAlone || (!left.isEmpty && !right.isEmpty) }
    let state ← passAlone process joining names.1 false joining.showsFirst state left
    passAlone process joining names.2 true joining.showsSecond state right

/-- The place that a field number stands for. -/
def fieldPlace (s : List Char) : Except (List Char) Nat :=
  match Text.natural? s with
  | some (n + 1) => .ok n
  | _ => .error ("invalid field number: ".toList ++ marked s)

/-- A field of a list of fields. -/
def joinedField (s : List Char) : Except (List Char) JoinedField :=
  match s with
  | ['0'] => .ok .common
  | '1' :: '.' :: rest => (fieldPlace rest).map (.own false)
  | '2' :: '.' :: rest => (fieldPlace rest).map (.own true)
  | '0' :: _ | '1' :: _ | '2' :: _ => .error ("invalid field specifier: ".toList ++ marked s)
  | _ => .error ("invalid file number in field spec: ".toList ++ marked s)

/-- What the options of a joining ask for. -/
def joiningOf (options : Arguments) : Except (List Char) Joining :=
  options.options.foldlM (fun (joining : Joining) (letter, value) => do
    match letter with
    | 'a' | 'v' =>
      let joining := if letter = 'v' then { joining with showsPairs := false } else joining
      match value with
      | ['1'] => return { joining with showsFirst := true }
      | ['2'] => return { joining with showsSecond := true }
      | _ => throw ("invalid field number: ".toList ++ marked value)
    | '1' => return { joining with first := ← fieldPlace value }
    | '2' => return { joining with second := ← fieldPlace value }
    | 'j' =>
      let place ← fieldPlace value
      return { joining with first := place, second := place }
    | 't' =>
      match value with
      | [] => return { joining with separator := some '\n' }
      | [c] => return { joining with separator := some c }
      | ['\\', '0'] => return { joining with separator := some '\x00' }
      | _ => throw ("multi-character tab ".toList ++ marked value)
    | 'i' => return { joining with ignoresCase := true }
    | 'e' => return { joining with filler := value }
    | 'o' =>
      if value = "auto".toList then return joining
      let words := value.splitBy (fun a b =>
        let isBetween (c : Char) : Bool := c = ',' || c = ' ' || c = '\t'
        isBetween a = isBetween b) |>.filter fun word => !word.all fun c =>
          c = ',' || c = ' ' || c = '\t'
      return { joining with
        fields := some (joining.fields.getD [] ++ (← words.mapM joinedField)) }
    | 'c' => return { joining with checks := some true }
    | 'n' => return { joining with checks := some false }
    | 'z' => return { joining with ending := '\x00' }
    | _ => return joining) {}

/-- The fields of all joined lines if the first lines of both inputs decide about them. -/
def Joining.automatic (joining : Joining) (left right : List JoinLine) : Joining :=
  let others (isSecond : Bool) (place : Nat) (lines : List JoinLine) : List JoinedField :=
    let count := (lines.head?.map (·.fields.size)).getD 0
    ((List.range count).filter (· ≠ place)).map (.own isSecond)
  { joining with
    fields := some (.common :: others false joining.first left
      ++ others true joining.second right) }

/-- Joins two inputs by a field. -/
def join (process : Process) : Step Nat :=
  process.withOptions
    { plain := "iz", valued := "12aejotv"
      words := [("ignore-case", 'i'), ("zero-terminated", 'z'), ("check-order", 'c'),
        ("nocheck-order", 'n'), ("header", 'h')] } 1
    fun options => do
      match joiningOf options, options.operands with
      | .error message, _ =>
        process.complain message
        return 1
      | .ok _, [] => misuse process "missing operand".toList 1
      | .ok _, [name] => misuse process ("missing operand after ".toList ++ marked name) 1
      | .ok _, _ :: _ :: extra :: _ => misuse process ("extra operand ".toList ++ marked extra) 1
      | .ok joining, [first, second] =>
        if first = ['-'] && second = ['-'] then
          process.complain "both files cannot be standard input".toList
          return 1
        let (inputs, status) ← process.inputs [first, second] process.blame
        match inputs with
        | [a, b] =>
          let (left, right) := (joining.linesOf a.text, joining.linesOf b.text)
          let joining :=
            if options.values 'o' |>.contains "auto".toList then joining.automatic left right
            else joining
          let (left, right) ←
            if options.has 'h' then do
              if !left.isEmpty || !right.isEmpty then
                process.say (joining.joined left.head? right.head?)
              pure (left.tail, right.tail)
            else pure (left, right)
          let fuel := left.length + right.length + 1
          let state ← joinLines process joining (first, second) fuel {} left right
          if state.firstReported || state.secondReported then
            if joining.checks ≠ some true then
              process.complain "input is not in sorted order".toList
            return 1
          return 0
        | _ => return max status 1

end CheckedBuild.Machine.Tools
