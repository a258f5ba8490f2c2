import CheckedBuild.Machine.Tools.Modes
import CheckedBuild.Text.Regular.Spelling

/-!
# Expressions on files

An expression is made of tests, which hold for a file or not, and of actions, which do something
with it. They are joined by and, or and not, and a comma runs one after the other.
-/

namespace CheckedBuild.Finding

open CheckedBuild.Machine

/-- How a number is compared: it is to be more, less or just as much. -/
inductive Comparison where
  | more
  | less
  | exactly
deriving DecidableEq, Repr

/-- Whether a number compares as wanted with an amount. -/
def Comparison.holds (comparison : Comparison) (amount n : Nat) : Bool :=
  match comparison with
  | .more => amount < n
  | .less => n < amount
  | .exactly => n = amount

/-- How permissions are compared with given ones. -/
inductive ModeMatch where
  | exact
  | allOf
  | anyOf
deriving DecidableEq, Repr

/-- An expression on files. -/
inductive Test where
  | always (value : Bool)
  | name (pattern : List Char) (folds : Bool)
  | path (pattern : List Char) (folds : Bool)
  | regular (expression : Text.Regular.Expression) (folds : Bool)
  /-- The kind of the node, or of what a link leads to. -/
  | kind (letters : List Char) (through : Bool)
  | linkName (pattern : List Char) (folds : Bool)
  | isEmpty
  | isReadable
  | isExecutable
  | size (comparison : Comparison) (amount unit : Nat)
  | links (comparison : Comparison) (amount : Nat)
  | number (comparison : Comparison) (amount : Nat)
  | owner (comparison : Comparison) (amount : Nat)
  | mode (how : ModeMatch) (bits : Nat)
  /-- Changed after a point in time. -/
  | newer (time : Nat)
  /-- Changed so many units of time ago, where units that have begun count as whole or not. -/
  | age (comparison : Comparison) (amount unit : Nat) (begun : Bool)
  | sameFile (number : Option Nat)
  | print (ending : Char)
  | format (format : List Char)
  | list
  | prune
  | delete
  | quit
  | execute (command : List (List Char)) (inDirectory : Bool)
  /-- Runs the command once, for all paths. -/
  | executeAll (command : List (List Char))
  /-- Runs the command if that is agreed to. -/
  | ask (command : List (List Char))
  | not (inside : Test)
  | both (left right : Test)
  | either (left right : Test)
  | sequence (left right : Test)

/-- Whether an expression does something that makes printing needless. -/
def Test.acts : Test → Bool
  | .print _ | .format _ | .list | .delete | .quit | .execute .. | .executeAll _ | .ask _ => true
  | .not inside => inside.acts
  | .both left right | .either left right | .sequence left right => left.acts || right.acts
  | _ => false

/-- What a reader of expressions knows: the arguments that are left and the files. -/
structure Reading where
  arguments : List (List Char)
  files : FileSystem

/-- Steps of a reader of expressions, which may end with a complaint. -/
abbrev Reader := StateT Reading (Except (List Char))

/-- The next argument. -/
def peek : Reader (Option (List Char)) := return (← get).arguments.head?

/-- Drops the next argument. -/
def skip : Reader Unit :=
  modify fun reading => { reading with arguments := reading.arguments.tail }

/-- Takes the next argument if it is one of some words. -/
def accept (words : List String) : Reader (Option (List Char)) := do
  match ← peek with
  | some s =>
    if words.contains (String.ofList s) then
      skip
      return some s
    return none
  | none => return none

/-- A text in the marks that complaints put around words. -/
def quoted (s : List Char) : List Char := '\x60' :: s ++ ['\'']

/-- The value of a test. -/
def valueOf (word : List Char) : Reader (List Char) := do
  match ← peek with
  | some s =>
    skip
    return s
  | none => throw ("missing argument to ".toList ++ quoted word)

/-- A comparison with an amount: a sign comes before it. -/
def comparisonOf? (s : List Char) : Option (Comparison × Nat) :=
  match s with
  | '+' :: digits => (Text.natural? digits).map fun n => (.more, n)
  | '-' :: digits => (Text.natural? digits).map fun n => (.less, n)
  | digits => (Text.natural? digits).map fun n => (.exactly, n)

/-- The comparison that is the value of a test. -/
def comparisonFor (word : List Char) : Reader (Comparison × Nat) := do
  let s ← valueOf word
  match comparisonOf? s with
  | some result => return result
  | none => throw ("invalid argument ".toList ++ quoted s ++ " to ".toList ++ quoted word)

/-- The command of a test up to its end, and whether it is run once for all paths. -/
def commandOf : List (List Char) → Option (List (List Char) × Bool × List (List Char))
  | [] => none
  | [';'] :: rest => some ([], false, rest)
  | ['\x7b', '\x7d'] :: ['+'] :: rest => some ([], true, rest)
  | s :: rest => (commandOf rest).map fun (command, all, rest) => (s :: command, all, rest)

/-- The command that is the value of a test. -/
def commandFor (word : List Char) : Reader (List (List Char) × Bool) := do
  match commandOf (← get).arguments with
  | some (command, all, rest) =>
    modify fun reading => { reading with arguments := rest }
    return (command, all)
  | none => throw ("missing argument to ".toList ++ quoted word)

/-- An expression in which parentheses, bars and braces are special behind a backslash only, the
other way round. -/
def exchanged : List Char → List Char
  | '\\' :: c :: rest =>
    if "()|".toList.contains c then c :: exchanged rest else '\\' :: c :: exchanged rest
  | c :: rest =>
    if "()|\x7b\x7d".toList.contains c then '\\' :: c :: exchanged rest else c :: exchanged rest
  | [] => []

/-- The expression for a whole path. -/
def pathExpression (s : List Char) : Except Text.Regular.Fault Text.Regular.Expression :=
  let dialect : Text.Regular.Dialect := { bare := true, looseBounds := true }
  (dialect.parse (exchanged s)).map fun expression =>
    (Text.Regular.Expression.lineStart.join expression).join .lineEnd

/-- The node at the path that is the value of a test. -/
def referenceFor (word : List Char) : Reader (Name × Node) := do
  let path ← valueOf word
  match (← get).files.find (textOfRaw path) with
  | .ok found => return found
  | .error refusal => throw (Tools.marked path ++ ": ".toList ++ refusal.complaint.toList)

/-- The letters for kinds of nodes. -/
def kindsFor (word : List Char) : Reader (List Char) := do
  let letters ← valueOf word
  match letters.find? fun c => !"fdlcbps,".toList.contains c with
  | some c => throw ("Unknown argument to ".toList ++ word ++ ": ".toList ++ [c])
  | none => return letters.filter (· ≠ ',')

/-- A test on permissions. -/
def modeTest (s : List Char) : Reader Test := do
  let (how, written) : ModeMatch × List Char := match s with
    | '-' :: rest => (.allOf, rest)
    | '/' :: rest => (.anyOf, rest)
    | rest => (.exact, rest)
  match if written.head? = some '+' && written.tail.all Tools.isOctal then none
      else Tools.readMode? written with
  | some changes => return .mode how (Tools.changedMode changes 0 false 0)
  | none => throw ("invalid mode ".toList ++ Tools.marked s)

/-- A test on sizes. -/
def sizeTest (s : List Char) : Reader Test := do
  let unit? : Option Nat := match s.getLast? with
    | some 'c' => some 1
    | some 'w' => some 2
    | some 'b' => some 512
    | some 'k' => some 1024
    | some 'M' => some 1048576
    | some 'G' => some 1073741824
    | some c => if c.isDigit then some 512 else none
    | none => none
  let digits := if s.getLast?.any Char.isDigit then s else s.dropLast
  match comparisonOf? digits, unit? with
  | some (comparison, amount), some unit => return .size comparison amount unit
  | _, _ => throw ("invalid -size type ".toList ++ quoted (s.drop (s.length - 1)))

/-- A test on the user or the group of files: there is only one. -/
def ownerTest (word what s : List Char) : Reader Test := do
  if s = "root".toList then return .always true
  match Text.natural? s with
  | some n => return .always (n = 0)
  | none =>
    if s.isEmpty then throw ("argument to ".toList ++ word ++ " is empty".toList)
    throw (Tools.marked s ++ " is not the name of a known ".toList ++ what)

/-- A minute and a day in nanoseconds. -/
def minute : Nat := 60000000000

/-- A day in nanoseconds. -/
def day : Nat := 86400000000000

/-- A single test or action. -/
def readTest (word : List Char) : Reader Test := do
  let value := valueOf word
  match String.ofList word with
  | "-name" => return .name (← value) false
  | "-iname" => return .name (← value) true
  | "-path" | "-wholename" => return .path (← value) false
  | "-ipath" | "-iwholename" => return .path (← value) true
  | "-regex" | "-iregex" =>
    let s ← value
    match pathExpression s with
    | .ok expression => return .regular expression (word = "-iregex".toList)
    | .error fault =>
      throw ("failed to compile regular expression ".toList ++ Tools.marked s
        ++ (": " ++ fault.message).toList)
  | "-regextype" =>
    let _ ← value
    return .always true
  | "-lname" => return .linkName (← value) false
  | "-ilname" => return .linkName (← value) true
  | "-type" => return .kind (← kindsFor word) false
  | "-xtype" => return .kind (← kindsFor word) true
  | "-empty" => return .isEmpty
  | "-executable" => return .isExecutable
  | "-readable" | "-writable" => return .isReadable
  | "-true" | "-nowarn" | "-warn" | "-noleaf" | "-mount" | "-xdev" | "-daystart"
  | "-ignore_readdir_race" | "-noignore_readdir_race" | "-follow" => return .always true
  | "-false" | "-nouser" | "-nogroup" => return .always false
  | "-print" => return .print '\n'
  | "-print0" => return .print '\x00'
  | "-printf" => return .format (← value)
  | "-ls" => return .list
  | "-prune" => return .prune
  | "-delete" => return .delete
  | "-quit" => return .quit
  | "-perm" => modeTest (← value)
  | "-size" => sizeTest (← value)
  | "-links" => return (fun (c, n) => .links c n) (← comparisonFor word)
  | "-inum" => return (fun (c, n) => .number c n) (← comparisonFor word)
  | "-uid" | "-gid" => return (fun (c, n) => .owner c n) (← comparisonFor word)
  | "-user" => ownerTest word "user".toList (← value)
  | "-group" => ownerTest word "group".toList (← value)
  | "-mtime" | "-atime" | "-ctime" =>
    return (fun (c, n) => .age c n day false) (← comparisonFor word)
  | "-mmin" | "-amin" | "-cmin" =>
    return (fun (c, n) => .age c n minute true) (← comparisonFor word)
  | "-newer" | "-anewer" | "-cnewer" | "-newermm" =>
    return .newer (← referenceFor word).2.changed
  | "-samefile" => return .sameFile ((← get).files.number? (← referenceFor word).1)
  | "-exec" =>
    let (command, all) ← commandFor word
    return if all then .executeAll command else .execute command false
  | "-execdir" => return .execute (← commandFor word).1 true
  | "-ok" | "-okdir" => return .ask (← commandFor word).1
  | _ =>
    if word.head? = some '-' then throw ("unknown predicate ".toList ++ quoted word)
    else throw ("paths must precede expression: ".toList ++ quoted word)

/-- Complains that an operator stands where an expression is expected. -/
def refuseOperator {α : Type} (word : List Char) : Reader α :=
  throw ("invalid expression; you have used a binary operator '".toList ++ word
    ++ "' with nothing before it.".toList)

/-- The words for operators between expressions. -/
def binaryWords : List String := ["-a", "-and", "-o", "-or", ","]

mutual

/-- Expressions that are run one after the other. -/
def readSequence (fuel : Nat) : Reader Test := do
  match fuel with
  | 0 => return .always true
  | fuel + 1 =>
    let left ← readEither fuel
    if (← accept [","]).isSome then return .sequence left (← readSequence fuel)
    return left

/-- Expressions of which one has to hold. -/
def readEither (fuel : Nat) : Reader Test := do
  match fuel with
  | 0 => return .always true
  | fuel + 1 =>
    let left ← readBoth fuel
    if (← accept ["-o", "-or"]).isSome then return .either left (← readEither fuel)
    return left

/-- Expressions that all have to hold. -/
def readBoth (fuel : Nat) : Reader Test := do
  match fuel with
  | 0 => return .always true
  | fuel + 1 =>
    let left ← readSingle fuel
    let joint ← accept ["-a", "-and"]
    match ← peek with
    | none =>
      match joint with
      | some word => throw ("expected an expression after '".toList ++ word ++ ['\''])
      | none => return left
    | some s =>
      if joint.isNone && ["-o", "-or", ",", ")"].contains (String.ofList s) then return left
      return .both left (← readBoth fuel)

/-- An expression that may be negated or in parentheses. -/
def readSingle (fuel : Nat) : Reader Test := do
  match fuel with
  | 0 => return .always true
  | fuel + 1 =>
    if let some word ← accept ["!", "-not"] then
      if (← peek).isNone then
        throw ("expected an expression after '".toList ++ word ++ ['\''])
      return .not (← readSingle fuel)
    if (← accept ["("]).isSome then
      if (← accept [")"]).isSome then
        throw ("invalid expression; empty parentheses are not allowed.").toList
      let inside ← readSequence fuel
      if (← accept [")"]).isSome then return inside
      throw ("invalid expression; I was expecting to find a ')' somewhere but did not see "
        ++ "one.").toList
    match ← peek with
    | none => return .always true
    | some s =>
      if binaryWords.contains (String.ofList s) then return ← refuseOperator s
      skip
      readTest s

end

/-- Reads a whole expression. One that does nothing prints the paths for which it holds. -/
def Test.read? (files : FileSystem) (arguments : List (List Char)) :
    Except (List Char) Test := do
  if arguments.isEmpty then return .print '\n'
  let (test, reading) ← (readSequence (6 * arguments.length + 6)).run ⟨arguments, files⟩
  match reading.arguments with
  | [] => return if test.acts then test else .both test (.print '\n')
  | _ => throw "you have too many ')'".toList

end CheckedBuild.Finding
