import CheckedBuild.Shell.Arithmetic
import CheckedBuild.Shell.Field

/-!
# Expanding words

A word is expanded part by part. Tildes become home directories, parameters their values, scripts
what they print and arithmetic expressions their values. Words may hold words and scripts, so what
expands and runs them is a parameter here.
-/

namespace CheckedBuild.Shell

open CheckedBuild.Machine

/-- Where tildes stand for home directories. -/
inductive Tildes where
  | nowhere
  | atStart
  /-- After the equals sign of an assignment, and after its colons. -/
  | inAssignment
deriving DecidableEq, Repr

/-- The home directory of a user. -/
def State.home? (state : State) (user : List Char) : Option (List Char) :=
  if user.isEmpty then state.value? "HOME".toList
  else if user = "root".toList then some "/root".toList
  else none

/-- The pieces of plain text in which a tilde may stand at every place that `begins`; `ready` tells
that this is one, and `isLast` that nothing follows the text. -/
def tildePieces (state : State) (inAssignment isLast : Bool) (fuel : Nat) (ready equals : Bool)
    (s : List Char) : List Piece :=
  match fuel with
  | 0 => []
  | fuel + 1 =>
    match s with
    | [] => []
    | '~' :: rest =>
      let user := rest.takeWhile fun c => c ≠ '/' && !(inAssignment && c = ':')
      let later := rest.drop user.length
      let home? := if later.isEmpty && !isLast then none else state.home? user
      match ready, home? with
      | true, some home =>
        (if home.isEmpty then .loose [] else .text true home)
          :: tildePieces state inAssignment isLast fuel false equals later
      | _, _ => .text false ['~'] :: tildePieces state inAssignment isLast fuel false equals rest
    | c :: rest =>
      let isEquals := inAssignment && !equals && c = '='
      let begins := isEquals || (inAssignment && c = ':')
      .text false [c] :: tildePieces state inAssignment isLast fuel begins (equals || isEquals) rest

/-- The pieces of plain text. -/
def plainPieces (state : State) (tildes : Tildes) (isFirst isLast : Bool) (s : List Char) :
    List Piece :=
  if tildes = .nowhere || !s.contains '~' then [.text false s]
  else
    tildePieces state (tildes = .inAssignment) isLast (s.length + 1)
      (tildes = .atStart && isFirst) (!isFirst) s

/-- The pieces of a parameter's value as it is. -/
def State.valuePieces (state : State) (quoted : Bool) (name : List Char) : List Piece :=
  let whole (s : List Char) : Piece := if quoted then .text true s else .loose s
  match name, quoted with
  | ['@'], _ | ['*'], false =>
    if state.parameters.isEmpty then (if quoted then [] else [.loose []])
    else (state.parameters.map whole).intersperse (.gap quoted)
  | _, _ => [whole ((state.parameter? name).getD [])]

/-- Expands a word that is not split. -/
def expandWhole (engine : Engine) (word : Word) : Run (List Marked) := do
  let pieces ← engine.expand false word
  return unsplit (← get).joint pieces

/-- Evaluates an arithmetic expression, with the assignments in it. -/
def evaluateArithmetic (expression : List Char) : Run Int := do
  let state ← get
  let isReadOnly (name : List Char) : Bool :=
    ((state.values.lookup name).map (·.isReadOnly)).getD false
  let (result, assigned) := Arithmetic.valueOf state.value? isReadOnly expression
  assigned.reverse.forM fun (name, n) => assign name (decimalOf n) false
  match result with
  | .ok n => return n
  | .error fault => fail (fault.message expression)

/-- Expands a parameter with an operation on its value. -/
def expandParameter (engine : Engine) (breaks quoted : Bool) (name : List Char)
    (operation : Operation) (word : Word) : Run (List Piece) := do
  let state ← get
  let value := state.parameter? name
  let whole (s : List Char) : List Piece := [if quoted then .text true s else .loose s]
  let isMissing (colon : Bool) : Bool := value.isNone || (colon && value == some [])
  let isList := name = ['@'] || name = ['*']
  let notSet (message : String) : Run (List Piece) := fail (name ++ ": ".toList ++ message.toList)
  let needed : Run (List Char) := do
    if value.isNone && !isList && state.isOn 'u' then
      let _ ← notSet "parameter not set"
    return value.getD []
  match operation with
  | .bad => fail "Bad substitution".toList
  | .value =>
    let _ ← needed
    return state.valuePieces quoted name
  | .length => return whole (decimal (← needed).length)
  | .fallback colon =>
    if isMissing colon then engine.expand (breaks || !quoted) word
    else return state.valuePieces quoted name
  | .alternative colon =>
    if isMissing colon then return whole [] else engine.expand (breaks || !quoted) word
  | .assign colon =>
    if isMissing colon then
      let s := unmarked (← expandWhole engine word)
      if !isName name then
        let _ ← notSet "bad variable name"
      assign name s false
      return whole s
    else return state.valuePieces quoted name
  | .demand colon =>
    if isMissing colon then
      if word.isEmpty then
        notSet (if colon then "parameter not set or null" else "parameter not set")
      else
        let s := unmarked (← expandWhole engine word)
        fail (name ++ ": ".toList ++ s)
    else return state.valuePieces quoted name
  | .trimFront longest =>
    let s ← needed
    return whole (dropMatchingFront longest (← expandWhole engine word) s)
  | .trimBack longest =>
    let s ← needed
    return whole (dropMatchingBack longest (← expandWhole engine word) s)

/-- Expands one part of a word; `breaks` tells that plain text is split, too. -/
def expandPart (engine : Engine) (breaks : Bool) (tildes : Tildes) (isFirst isLast : Bool)
    (part : Part) : Run (List Piece) := do
  match part with
  | .mark => return [.mark]
  | .text true s => return [.text true s]
  | .text false s =>
    let pieces := plainPieces (← get) tildes isFirst isLast s
    if !breaks then return pieces
    return pieces.map fun
      | .text false s => .loose s
      | piece => piece
  | .output quoted script =>
    let s ← capture engine script
    return [if quoted then .text true s else .loose s]
  | .arithmetic quoted expression =>
    let s := unmarked (← expandWhole engine expression)
    let n := decimalOf (← evaluateArithmetic s)
    return [if quoted then .text true n else .loose n]
  | .parameter quoted name operation word =>
    expandParameter engine breaks quoted name operation word

/-- Expands the parts of a word. All positional parameters in quotes of their own make no field
if there are none. -/
def expandParts (engine : Engine) (breaks : Bool) (tildes : Tildes) :
    Bool → Word → Run (List Piece)
  | _, [] => return []
  | _, .mark :: .parameter true ['@'] .value [] :: .mark :: rest => do
    let pieces := (← get).valuePieces true ['@']
    let more ← expandParts engine breaks tildes false rest
    return (if pieces.isEmpty then [.loose []] else pieces) ++ more
  | isFirst, part :: rest => do
    let pieces ← expandPart engine breaks tildes isFirst rest.isEmpty part
    let more ← expandParts engine breaks tildes false rest
    return pieces ++ more

/-- Expands a word to fields, and those to paths. -/
def expandFields (engine : Engine) (word : Word) : Run (List (List Char)) := do
  let pieces ← expandParts engine false .atStart true word
  let state ← get
  let fields := fieldsOf state.separators pieces
  if state.isOn 'f' then return fields.map unmarked
  return fields.flatMap (pathsOf state.kernel.files)

/-- Expands words to fields, one after the other. -/
def expandWords (engine : Engine) : List Word → Run (List (List Char))
  | [] => return []
  | word :: rest => do
    let fields ← expandFields engine word
    return fields ++ (← expandWords engine rest)

/-- Expands a word to one text. -/
def expandText (engine : Engine) (tildes : Tildes) (word : Word) : Run (List Char) := do
  let pieces ← expandParts engine false tildes true word
  return unmarked (unsplit (← get).joint pieces)

end CheckedBuild.Shell
