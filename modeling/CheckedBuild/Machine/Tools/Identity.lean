import CheckedBuild.Machine.Tools.Operands

/-!
# Who and where

These tools say who runs a process and on what machine it runs.
-/

namespace CheckedBuild.Machine.Tools

open Process

/-- The accounts of the machine: names and numbers, which the groups share. -/
def accounts : List (String × Nat) :=
  [("root", 0), ("daemon", 1), ("bin", 2), ("sys", 3), ("nobody", 65534)]

/-- The account that a name or a number stands for. -/
def account? (s : List Char) : Option (List Char × Nat) :=
  let number? := Text.natural? (if s.head? = some '+' then s.drop 1 else s)
  (accounts.find? fun (name, number) => name.toList = s || number? = some number).map
    fun (name, number) => (name.toList, number)

/-- Runs a step if there are no operands, and finds fault with the first one otherwise. -/
def withoutOperands (process : Process) (table : OptionTable) (failure : Nat)
    (step : Arguments → Step Nat) : Step Nat :=
  process.withOptions table failure fun options =>
    match options.operands with
    | [] => step options
    | extra :: _ => misuse process ("extra operand ".toList ++ marked extra) failure

/-- Prints a line, and ends with a status. -/
def constant (line : String) (status : Nat) (process : Process) : Step Nat :=
  withoutOperands process { plain := "" } 1 fun _ => do
    process.say (closed line.toList)
    return status

/-- Prints the name of the machine. -/
def hostname (process : Process) : Step Nat :=
  process.withOptions { plain := "afis" } 1 fun options => do
    match options.operands with
    | [] =>
      process.say (closed "localhost".toList)
      return 0
    | _ =>
      process.complain "you must be root to change the host name".toList
      return 1

/-- Says that nobody has logged in. -/
def logname (process : Process) : Step Nat :=
  withoutOperands process { plain := "" } 1 fun _ => do
    process.complain "no login name".toList
    return 1

/-- Prints who is logged in, which is nobody. -/
def users (process : Process) : Step Nat :=
  process.withOptions { plain := "abdlmpqrstuwHT" } 1 fun _ => return 0

/-- Prints how many processors there are. -/
def nproc (process : Process) : Step Nat :=
  withoutOperands process
    { plain := "", valued := "α", words := [("all", 'β'), ("ignore", 'α')] } 1
    fun options => do
      match options.value? 'α' with
      | some value =>
        if (Text.natural? value).isNone then
          process.complain ("invalid number: ".toList ++ marked value)
          return 1
      | none => pure ()
      process.say (closed ['1'])
      return 0

/-- Says that standard input is no terminal. -/
def tty (process : Process) : Step Nat :=
  withoutOperands process { plain := "s", words := [("silent", 's'), ("quiet", 's')] } 2
    fun options => do
      if !options.has 's' then process.say (closed "not a tty".toList)
      return 1

/-- Writes everything to where it is kept, which has been done. -/
def sync (process : Process) : Step Nat :=
  process.withOptions { plain := "df", words := [("data", 'd'), ("file-system", 'f')] } 1
    fun options => do
      if options.has 'd' && options.operands.isEmpty then
        process.complain "--data needs at least one argument".toList
        return 1
      onEach options.operands fun name => do
        match ← nodeAt name with
        | .ok _ => return 0
        | .error refusal =>
          process.complain ("error opening ".toList ++ marked name ++ ": ".toList
            ++ refusal.complaint.toList)
          return 1

/-- Prints what is known about the machine. -/
def uname (process : Process) : Step Nat :=
  withoutOperands process
    { plain := "asnrvmpio"
      words := [("all", 'a'), ("kernel-name", 's'), ("nodename", 'n'), ("kernel-release", 'r'),
        ("kernel-version", 'v'), ("machine", 'm'), ("processor", 'p'),
        ("hardware-platform", 'i'), ("operating-system", 'o')] }
    1 fun options => do
      let known := [('s', "Linux"), ('n', "localhost"), ('r', "6.1.0"), ('v', "#1 SMP"),
        ('m', "x86_64"), ('p', "x86_64"), ('i', "x86_64"), ('o', "GNU/Linux")]
      let shown := known.filter fun (letter, _) =>
        options.has 'a' || options.has letter
          || (letter = 's' && options.options.isEmpty)
      process.say (closed (Text.joinWith [' '] (shown.map fun (_, text) => text.toList)))
      return 0

/-- Prints who runs the process. -/
def whoami (process : Process) : Step Nat :=
  withoutOperands process { plain := "" } 1 fun _ => do
    process.say (closed "root".toList)
    return 0

/-- The complaint that there is no such account. -/
def noAccount (name : List Char) : List Char := marked name ++ ": no such user".toList

/-- Prints the groups of accounts. -/
def groups (process : Process) : Step Nat :=
  process.withOptions { plain := "" } 1 fun options => do
    if options.operands.isEmpty then
      process.say (closed "root".toList)
      return 0
    onEach options.operands fun name => do
      match account? name with
      | some (group, _) =>
        process.say (closed (name ++ " : ".toList ++ group))
        return 0
      | none =>
        process.complain (noAccount name)
        return 1

/-- Prints the names and numbers of accounts and of their groups. -/
def identity (process : Process) : Step Nat :=
  process.withOptions
    { plain := "aZugGnrz"
      words := [("user", 'u'), ("group", 'g'), ("groups", 'G'), ("name", 'n'), ("real", 'r'),
        ("zero", 'z'), ("context", 'Z')] } 1
    fun options => do
      let complain (message : String) : Step Nat := do
        process.complain message.toList
        return 1
      let choices := ("ugG".toList.filter options.has).length
      if options.has 'Z' then
        return ← complain "--context (-Z) works only on an SELinux-enabled kernel"
      if 1 < choices then return ← complain "cannot print \"only\" of more than one choice"
      if choices = 0 && (options.has 'n' || options.has 'r') then
        return ← complain "cannot print only names or real IDs in default format"
      if choices = 0 && options.has 'z' then
        return ← complain "option --zero not permitted in default format"
      let ending := if options.has 'z' then '\x00' else '\n'
      let operands := if options.operands.isEmpty then ["root".toList] else options.operands
      onEach operands fun operand => do
        match account? operand with
        | none =>
          process.complain (noAccount operand)
          return 1
        | some (name, number) =>
          let number := decimal number
          let both := number ++ '(' :: name ++ [')']
          let line :=
            if choices = 0 then
              "uid=".toList ++ both ++ " gid=".toList ++ both ++ " groups=".toList ++ both
            else if options.has 'n' then name
            else number
          process.say (line ++ [ending])
          return 0

end CheckedBuild.Machine.Tools
