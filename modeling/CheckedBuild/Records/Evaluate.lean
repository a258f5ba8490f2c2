import CheckedBuild.Records.State
import CheckedBuild.Text.Calendar

/-!
# Running programs for records

Expressions have values and effects, statements have effects and may end early. The rules for the
beginning are run first, then the others on every record, and last those for the end.
-/

namespace CheckedBuild.Records

open Machine Text

/-- The value of an operation on numbers. -/
def Arithmetic.apply (operator : Arithmetic) (x y : Float) : Float :=
  match operator with
  | .add => x + y
  | .subtract => x - y
  | .multiply => x * y
  | .divide => x / y
  | .power => Float.pow x y
  | .remainder =>
    match integer? x, integer? y with
    | some m, some n => if n = 0 then 0 / 0 else Float.ofInt (Int.tmod m n)
    | _, _ =>
      let quotient := x / y
      x - y * (if quotient < 0 then quotient.ceil else quotient.floor)

/-- Whether a comparison holds of what is less, equal or greater. -/
def Comparison.holds (operator : Comparison) (order : Ordering) : Bool :=
  match operator with
  | .less => order = .lt
  | .lessOrEqual => order ≠ .gt
  | .equal => order = .eq
  | .different => order ≠ .eq
  | .greater => order = .gt
  | .greaterOrEqual => order ≠ .lt

/-- The value of a name that is not special. -/
def nameValue (name : List Char) : Run Value := do
  if name = "NF".toList then return .number (Float.ofNat (← fieldsOf).size)
  match (← get).cell? name with
  | some (.value value) => return value
  | some (.table _) => throw (.fault ("type error in use of ".toList ++ name))
  | _ => return .unset

/-- Sets a name. -/
def setName (name : List Char) (value : Value) : Run Unit := do
  if name = "NF".toList then
    let n := truncated (-1) 100000 value.toNumber
    if n < 0 then throw (.fault "run time error: negative value assigned to NF".toList)
    setFieldCount n.toNat
  else setCell name (.value value)

/-- The number of a field. -/
def fieldNumber (value : Value) : Run Nat := do
  let n := truncated (-(Int.pow 2 31)) (Int.pow 2 31) value.toNumber
  if n < 0 then
    throw (.fault ("run time error: negative field index $".toList ++ decimalOf n))
  return n.toNat

/-- The complaint about a format that cannot be carried out by a function. -/
def FormatFault.complaint (fault : FormatFault) (name : String) (format : List Char) :
    List Char :=
  let reason := match fault with
    | .missingArguments => "not enough arguments passed to "
    | .improper number => "improper conversion(number " ++ toString number ++ ") in "
  ("run time error: " ++ reason ++ name ++ "(\"").toList ++ format ++ "\")".toList

/-- Hands over the text that a format and its arguments make to a step; if the format cannot be
carried out, that comes after it. -/
def withFormat {α : Type} (name : String) (values : List Value)
    (step : Formatted → Run α) : Run α := do
  let pattern ← textOf (values.headD .unset)
  let convert := (← get).format
  let made := formatted (pattern.length + 1) 1 (Value.toText convert) pattern (values.drop 1)
  let result ← step made
  match made.fault with
  | some fault => throw (.fault (fault.complaint name pattern))
  | none => return result

/-- A date in local time that digits give: year, month, day and time of day. -/
def secondsOf? (s : List Char) : Option Int :=
  match (splitFields [' '] s).map numberOf with
  | year :: month :: day :: hour :: minute :: second :: _ =>
    let whole : Float → Int := truncated (-(Int.pow 2 31)) (Int.pow 2 31)
    let date : Calendar.Date := { year := whole year, month := 1, day := 1 }
    let months := 12 * date.year + whole month - 1
    let first : Calendar.Date := { date with year := months / 12, month := (months % 12 + 1).toNat }
    some (first.seconds + 86400 * (whole day - 1) + 3600 * whole hour + 60 * whole minute
      + whole second)
  | _ => none

/-- The value of a function of the language that needs values only. -/
def plainBuiltin (name : String) (values : List Value) : Run Value := do
  let first := (values[0]?).getD .unset
  let x := first.toNumber
  match name, values with
  | "length", [] => return .number (Float.ofNat (← get).record.length)
  | "length", _ => return .number (Float.ofNat (← textOf first).length)
  | "substr", _ :: start :: rest =>
    return .text (part (← textOf first) start.toNumber (rest.head?.map Value.toNumber))
  | "index", _ :: wanted :: _ =>
    let s ← textOf first
    return .number (Float.ofNat (indexOf (s.length + 1) 1 (← textOf wanted) s))
  | "tolower", _ => return .text ((← textOf first).map Char.toLower)
  | "toupper", _ => return .text ((← textOf first).map Char.toUpper)
  | "sprintf", _ => withFormat "sprintf" values fun made => return .text made.text
  | "int", _ => return .number (if x < 0 then x.ceil else x.floor)
  | "sqrt", _ => return .number x.sqrt
  | "exp", _ => return .number x.exp
  | "log", _ => return .number x.log
  | "sin", _ => return .number x.sin
  | "cos", _ => return .number x.cos
  | "atan2", _ :: y :: _ => return .number (Float.atan2 x y.toNumber)
  | "rand", _ =>
    let n := ((← get).random * 1103515245 + 12345) % 2147483648
    modify fun state => { state with random := n }
    return .number (Float.ofNat n / 2147483648)
  | "srand", _ =>
    let seed := (← get).seed
    modify fun state => { state with seed := x, random := (truncated 0 (Int.pow 2 31) x).toNat + 1 }
    return .number seed
  | "fflush", _ =>
    flush
    return .number 0
  | "systime", _ =>
    return .number (Float.ofNat ((← get).kernel.files.now / 1000000000))
  | "mktime", _ =>
    match secondsOf? (← textOf first) with
    | some seconds => return .number (Float.ofInt seconds)
    | none => return .number (-1)
  | "strftime", _ =>
    let format ← match values with
      | [] => pure "%c".toList
      | format :: _ => textOf format
    let now : Nat := (← get).kernel.files.now / 1000000000
    let seconds : Int := match values[1]? with
      | some value => truncated (-(Int.pow 2 40)) (Int.pow 2 40) value.toNumber
      | none => now
    return .text ((Calendar.dateOf seconds 0).written format)
  | "system", _ =>
    flush
    return .number (Float.ofNat (← runShellCommand (← textOf first) none none))
  | "close", _ =>
    let name ← textOf first
    let state ← get
    let isOpen := state.readers.any (·.1 == name) || state.writers.any (·.1 == name)
    let isCommand := state.commands.any (·.1 == name)
    set { state with
      readers := state.readers.filter (·.1 != name)
      writers := state.writers.filter (·.1 != name) }
    let status ← closeCommand name
    return .number (if isCommand then Float.ofNat status else if isOpen then 0 else -1)
  | _, _ => return .number 0

/-- How many rounds loops go and how deep expressions and calls may be nested. -/
def fuelLimit : Nat := 1000000000

mutual

/-- The value of an expression. -/
def evaluate (fuel : Nat) (expression : Expression) : Run Value := do
  match fuel with
  | 0 => return .unset
  | fuel + 1 =>
    let isTrue (inside : Expression) : Run Bool := do return (← evaluate fuel inside).isTrue
    match expression with
    | .number x => return .number x
    | .text s => return .text s
    | .pattern s =>
      let record := (← get).record.toArray
      return .ofBool (Regular.search (expressionOf s) false record 0).isSome
    | .name name => nameValue name
    | .field index => fieldValue (← fieldNumber (← evaluate fuel index))
    | .element table indices =>
      let index ← indexFor fuel indices
      elementOf (← tableOf table) index
    | .group inside =>
      match inside with
      | [inside] => evaluate fuel inside
      | inside => return .text (← indexFor fuel inside)
    | .assign none target value =>
      let value ← evaluate fuel value
      assign fuel target value
      return value
    | .assign (some operator) target value =>
      let right ← evaluate fuel value
      let left ← evaluate fuel target
      let result := .number (operator.apply left.toNumber right.toNumber)
      assign fuel target result
      return result
    | .step before amount target =>
      let old := (← evaluate fuel target).toNumber
      assign fuel target (.number (old + amount))
      return .number (if before then old + amount else old)
    | .arithmetic operator left right =>
      let x ← evaluate fuel left
      let y ← evaluate fuel right
      return .number (operator.apply x.toNumber y.toNumber)
    | .negate inside => return .number (0 - (← evaluate fuel inside).toNumber)
    | .plus inside => return .number (← evaluate fuel inside).toNumber
    | .not inside => return .ofBool (!(← isTrue inside))
    | .join left right =>
      let s ← textOf (← evaluate fuel left)
      return .text (s ++ (← textOf (← evaluate fuel right)))
    | .compare operator left right =>
      let x ← evaluate fuel left
      let y ← evaluate fuel right
      return .ofBool (operator.holds (compareValues (← get).format x y))
    | .isMatch negated left right =>
      let s ← textOf (← evaluate fuel left)
      let expression ← patternFor fuel right
      return .ofBool ((Regular.search expression false s.toArray 0).isSome != negated)
    | .both left right =>
      if ← isTrue left then return .ofBool (← isTrue right) else return .ofBool false
    | .either left right =>
      if ← isTrue left then return .ofBool true else return .ofBool (← isTrue right)
    | .choose condition yes no =>
      if ← isTrue condition then evaluate fuel yes else evaluate fuel no
    | .contains table indices =>
      let index ← indexFor fuel indices
      let number ← tableOf table
      return .ofBool (((← get).table number).any (·.1 == index))
    | .builtin name arguments => builtin fuel name arguments
    | .call name arguments => call fuel name arguments
    | .readLine origin source target => readLine fuel origin source target

/-- The index that expressions make up. -/
def indexFor (fuel : Nat) (indices : List Expression) : Run (List Char) := do
  match fuel, indices with
  | fuel + 1, [index] => textOf (← evaluate fuel index)
  | fuel + 1, first :: rest =>
    let s ← textOf (← evaluate fuel first)
    return s ++ (← plainText "SUBSEP") ++ (← indexFor fuel rest)
  | _, _ => return []

/-- The expression to be matched that an operand gives. -/
def patternFor (fuel : Nat) (operand : Expression) : Run Regular.Expression := do
  match fuel, operand with
  | _, .pattern s => return expressionOf s
  | fuel + 1, operand => return expressionOf (← textOf (← evaluate fuel operand))
  | _, _ => return .empty

/-- Assigns a value to a target. -/
def assign (fuel : Nat) (target : Expression) (value : Value) : Run Unit := do
  match fuel, target with
  | _, .name name => setName name value
  | fuel + 1, .field index =>
    let n ← fieldNumber (← evaluate fuel index)
    setField n (← textOf value)
  | fuel + 1, .element table indices =>
    let index ← indexFor fuel indices
    setElement (← tableOf table) index value
  | _, _ => return

/-- The values of expressions. -/
def evaluateAll (fuel : Nat) (expressions : List Expression) : Run (List Value) := do
  match fuel, expressions with
  | fuel + 1, first :: rest =>
    let value ← evaluate fuel first
    return value :: (← evaluateAll fuel rest)
  | _, _ => return []

/-- Calls a function of the language. -/
def builtin (fuel : Nat) (name : String) (arguments : List Expression) : Run Value := do
  match fuel with
  | 0 => return .unset
  | fuel + 1 =>
    let substitute (pattern replacement target : Expression) : Run Value := do
      let expression ← patternFor fuel pattern
      let new ← textOf (← evaluate fuel replacement)
      let s ← textOf (← evaluate fuel target)
      let (s, count) :=
        replaceMatches expression new (name = "gsub") s.toArray (s.length + 2) 0 none
      if count ≠ 0 then assign fuel target (.text s)
      return .number (Float.ofNat count)
    match name, arguments with
    | "length", [.name table] =>
      match (← get).cell? table with
      | some (.table number) | some (.undecided number) =>
        return .number (Float.ofNat ((← get).table number).length)
      | _ => plainBuiltin name [← nameValue table]
    | "split", s :: .name table :: rest =>
      let s ← textOf (← evaluate fuel s)
      let separator ← match rest with
        | [] => plainText "FS"
        | .pattern s :: _ => pure (if s = [' '] then "[ ]".toList else s)
        | other :: _ => textOf (← evaluate fuel other)
      let fields := splitFields separator s
      setTable (← tableOf table) (fields.zipIdx.map fun (field, i) =>
        (decimal (i + 1), Value.ofInput field)).reverse
      return .number (Float.ofNat fields.length)
    | "sub", [pattern, replacement] | "gsub", [pattern, replacement] =>
      substitute pattern replacement (.field (.number 0))
    | "sub", pattern :: replacement :: target :: _
    | "gsub", pattern :: replacement :: target :: _ => substitute pattern replacement target
    | "match", s :: pattern :: _ =>
      let s ← textOf (← evaluate fuel s)
      let (start, length) : Float × Float :=
        match Regular.search (← patternFor fuel pattern) false s.toArray 0 with
        | some (first, last, _) => (Float.ofNat (first + 1), Float.ofNat (last - first))
        | none => (0, -1)
      setPlain "RSTART" (.number start)
      setPlain "RLENGTH" (.number length)
      return .number start
    | name, arguments => plainBuiltin name (← evaluateAll fuel arguments)

/-- What arguments are handed over as. -/
def handOverAll (fuel : Nat) (arguments : List Expression) : Run (List Cell) := do
  match fuel, arguments with
  | fuel + 1, .name name :: rest =>
    let cell ← if name = "NF".toList then Cell.value <$> nameValue name else handOver name
    return cell :: (← handOverAll fuel rest)
  | fuel + 1, first :: rest =>
    let value ← evaluate fuel first
    return .value value :: (← handOverAll fuel rest)
  | _, _ => return []

/-- Calls a function of the program. -/
def call (fuel : Nat) (name : List Char) (arguments : List Expression) : Run Value := do
  match fuel with
  | 0 => return .unset
  | fuel + 1 =>
    match (← get).functions.find? (·.name == name) with
    | none => return .unset
    | some function =>
      let given ← handOverAll fuel arguments
      let others ← (function.parameters.drop given.length).mapM fun _ =>
        Cell.undecided <$> newTable
      let before := (← get).locals
      modify fun state =>
        { state with locals := function.parameters.zip (given ++ others) }
      let restore : Run Unit := modify fun state => { state with locals := before }
      try
        execute fuel function.body
        restore
        return .unset
      catch stop =>
        restore
        match stop with
        | .giveBack value => return value
        | stop => throw stop

/-- Reads a line; the value is one if there is one, zero at the end and less if nothing can be
read. -/
def readLine (fuel : Nat) (origin : Origin) (source target : List Expression) : Run Value := do
  match fuel with
  | 0 => return .unset
  | fuel + 1 =>
    let store (s : List Char) : Run Unit :=
      match target with
      | target :: _ => assign fuel target (.ofInput s)
      | [] => setRecord s
    match origin, source with
    | .input, _ =>
      match ← nextRecord 100000 with
      | some record =>
        store record
        return .number 1
      | none => return .number 0
    | origin, operand :: _ =>
      let name ← textOf (← evaluate fuel operand)
      let found? ← match (← get).readers.lookup name with
        | some rest => pure (some rest)
        | none =>
          if origin = .command then some <$> outputOf name
          else
            let path := if name = ['-'] then "/dev/stdin".toList else name
            match ← step fun process => process.openFile path with
            | .ok number => some <$> readFrom number
            | .error _ => pure none
      match found? with
      | none => return .number (-1)
      | some rest =>
        let separator ← plainText "RS"
        let taken? := takeRecord separator rest
        let rest := (taken?.map (·.2)).getD []
        modify fun state =>
          { state with readers := (name, rest) :: state.readers.filter (·.1 != name) }
        match taken? with
        | some (record, _) =>
          store record
          if origin = .command then
            setPlain "NR" (.number (((← get).plain "NR").toNumber + 1))
          return .number 1
        | none => return .number 0
    | _, [] => return .number (-1)

/-- Prints a text to a target. -/
def sendTo (fuel : Nat) (target : Target) (s : List Char) : Run Unit := do
  match fuel, target with
  | fuel + 1, .file name keeps =>
    let name ← textOf (← evaluate fuel name)
    sayTo name keeps s
  | fuel + 1, .command command =>
    let command ← textOf (← evaluate fuel command)
    sayToCommand command s
  | _, _ => say s

/-- Executes a statement. -/
def execute (fuel : Nat) (statement : Statement) : Run Unit := do
  match fuel with
  | 0 => return
  | fuel + 1 =>
    match statement with
    | .block inside => executeAll fuel inside
    | .expression expression =>
      let _ ← evaluate fuel expression
    | .print arguments target =>
      let values ← evaluateAll fuel arguments
      let numbers ← plainText "OFMT"
      let texts ← if arguments.isEmpty then pure [(← get).record]
        else pure (values.map (Value.toText numbers))
      let joint ← plainText "OFS"
      let ending ← plainText "ORS"
      sendTo fuel target (joinWith joint texts ++ ending)
    | .printFormat arguments target =>
      let values ← evaluateAll fuel arguments
      withFormat "printf" values fun made => sendTo fuel target made.text
    | .branch condition yes no =>
      if (← evaluate fuel condition).isTrue then execute fuel yes else execute fuel no
    | .whileLoop condition body => repeatWhile fuel condition body
    | .doLoop body condition =>
      if ← runBody fuel body then repeatWhile fuel condition body
    | .forLoop first condition later body =>
      execute fuel first
      repeatFor fuel (condition.getD (.number 1)) later body
    | .forEach name table body =>
      let table := (← get).table (← tableOf table)
      repeatEach fuel name body (indicesOf table)
    | .delete table indices =>
      let number ← tableOf table
      if indices.isEmpty then setTable number []
      else
        let index ← indexFor fuel indices
        setTable number (((← get).table number).filter (·.1 != index))
    | .next => throw .next
    | .nextFile => throw .nextFile
    | .exit status =>
      match status with
      | some status =>
        let n := truncated (-(Int.pow 2 31)) (Int.pow 2 31) (← evaluate fuel status).toNumber
        modify fun state => { state with status := (n % 256).toNat }
      | none => pure ()
      throw .exit
    | .giveBack value =>
      match value with
      | some value => throw (.giveBack (← evaluate fuel value))
      | none => throw (.giveBack .unset)
    | .leave => throw .leave
    | .goOn => throw .goOn

/-- Executes statements. -/
def executeAll (fuel : Nat) (statements : List Statement) : Run Unit := do
  match fuel, statements with
  | fuel + 1, first :: rest =>
    execute fuel first
    executeAll fuel rest
  | _, _ => return

/-- Executes the body of a loop; the result tells whether the loop goes on. -/
def runBody (fuel : Nat) (body : Statement) : Run Bool := do
  match fuel with
  | 0 => return false
  | fuel + 1 =>
    try
      execute fuel body
      return true
    catch
      | .leave => return false
      | .goOn => return true
      | stop => throw stop

/-- Executes a body as long as a condition holds. -/
def repeatWhile (fuel : Nat) (condition : Expression) (body : Statement) : Run Unit := do
  match fuel with
  | 0 => return
  | fuel + 1 =>
    if !(← evaluate fuel condition).isTrue then return
    if !(← runBody fuel body) then return
    repeatWhile fuel condition body

/-- Executes a body and what comes after it as long as a condition holds. -/
def repeatFor (fuel : Nat) (condition : Expression) (later body : Statement) : Run Unit := do
  match fuel with
  | 0 => return
  | fuel + 1 =>
    if !(← evaluate fuel condition).isTrue then return
    if !(← runBody fuel body) then return
    execute fuel later
    repeatFor fuel condition later body

/-- Executes a body for each of some indices. -/
def repeatEach (fuel : Nat) (name : List Char) (body : Statement) (indices : List (List Char)) :
    Run Unit := do
  match fuel, indices with
  | fuel + 1, index :: rest =>
    setName name (.ofInput index)
    if ← runBody fuel body then repeatEach fuel name body rest
  | _, _ => return

end

/-- Whether a rule with a number selects the current record. -/
def isSelected (number : Nat) (selection : Selection) : Run Bool := do
  match selection with
  | .first | .last => return false
  | .always => return true
  | .condition condition => return (← evaluate fuelLimit condition).isTrue
  | .range start stop =>
    if !(← get).ranges.contains number then
      if !(← evaluate fuelLimit start).isTrue then return false
      modify fun state => { state with ranges := number :: state.ranges }
    if (← evaluate fuelLimit stop).isTrue then
      modify fun state => { state with ranges := state.ranges.filter (· != number) }
    return true

/-- Runs the rules that select the current record. -/
def runRules : List (Rule × Nat) → Run Unit
  | [] => return
  | (rule, number) :: rest => do
    if ← isSelected number rule.selection then
      execute fuelLimit (rule.action.getD (.print [] .output))
    runRules rest

/-- Runs the rules on all records that are left. -/
def runRecords (fuel : Nat) (rules : List (Rule × Nat)) : Run Unit := do
  match fuel with
  | 0 => return
  | fuel + 1 =>
    match ← nextRecord 100000 with
    | none => return
    | some record =>
      setRecord record
      try runRules rules
      catch
        | .next => pure ()
        | .nextFile => modify fun state => { state with input := none }
        | stop => throw stop
      runRecords fuel rules

/-- Runs the rules for the beginning or for the end. -/
def runSpecial (isWanted : Selection → Bool) (rules : List Rule) : Run Unit :=
  rules.forM fun rule => do
    if isWanted rule.selection then execute fuelLimit (rule.action.getD (.block []))

/-- Runs a program to its end; the commands that it has written to are run last. -/
def run (program : Program) : Run Unit := do
  let isFirst : Selection → Bool := fun
    | .first => true
    | _ => false
  let isLast : Selection → Bool := fun
    | .last => true
    | _ => false
  let others := program.rules.filter fun rule => !isFirst rule.selection
  let ended : Run Unit → Run Unit := fun step => do
    try step
    catch
      | .exit => pure ()
      | stop => throw stop
  ended do
    runSpecial isFirst program.rules
    if !others.isEmpty then runRecords fuelLimit others.zipIdx
  ended (runSpecial isLast program.rules)
  let commands := (← get).commands.map (·.1)
  commands.forM fun command => do
    let _ ← closeCommand command
  flush

end CheckedBuild.Records
