import CheckedBuild.Machine.Tools.Modes
import CheckedBuild.Text.DateReader

/-!
# Tools that make and remove files

These tools make, remove and mark files, directories, pipes and links.
-/

namespace CheckedBuild.Machine.Tools

open Process

/-- The time of the machine as a date. -/
def presentDate : Step Text.Calendar.Date := do
  let now := (← get).files.now
  return Text.Calendar.dateOf (now / 1000000000 : Nat) (now % 1000000000)

/-- A point in time in nanoseconds; what was before 1970 counts as its beginning. -/
def nanoseconds (seconds : Int) (fraction : Nat) : Nat :=
  seconds.toNat * 1000000000 + fraction

/-- The time to mark files with; nothing stands for the present. -/
def chosenTime (process : Process) (options : Arguments) : Step (Except Nat (Option Nat)) := do
  let wrong (s : List Char) : Step (Except Nat (Option Nat)) := do
    process.complain ("invalid date format ".toList ++ marked s)
    return .error 1
  let now ← presentDate
  match options.value? 'r', options.value? 'd', options.value? 't' with
  | some reference, _, none =>
    match ← nodeAt reference with
    | .ok (_, node) => return .ok (some node.changed)
    | .error refusal => return .error (← failed process "get attributes of" reference refusal)
  | none, some s, none =>
    match Text.Calendar.read? now s with
    | some (seconds, fraction) => return .ok (some (nanoseconds seconds fraction))
    | none => wrong s
  | none, none, some s =>
    match Text.Calendar.readDigits? now s with
    | some seconds => return .ok (some (nanoseconds seconds 0))
    | none => wrong s
  | none, none, none => return .ok none
  | _, _, _ =>
    return .error (← misuse process "cannot specify times from more than one source".toList 1)

/-- Marks files with a time, and makes those that are missing. -/
def touch (process : Process) : Step Nat :=
  process.withOptions
    { plain := "acmfh", valued := "drt="
      words := [("no-create", 'c'), ("date", 'd'), ("reference", 'r'), ("time", '='),
        ("no-dereference", 'h')] } 1
    fun options => do
      match ← chosenTime process options with
      | .error status => return status
      | .ok time? =>
        if options.operands.isEmpty then
          return ← misuse process "missing file operand".toList 1
        let mark (place : Name) : Step Unit := do
          if !options.has 'a' || options.has 'm' then
            changeFiles fun files =>
              files.changeAt place fun node => { node with changed := time?.getD files.now }
        onEach options.operands fun name => do
          match ← nodeAt name (!options.has 'h') with
          | .ok (place, _) =>
            mark place
            return 0
          | .error reason =>
            if reason = .notFound && (options.has 'c' || options.has 'h') then return 0
            match ← tryFiles fun files => (files.create true (textOfRaw name)).map (·.1) with
            | .ok () =>
              match ← nodeAt name with
              | .ok (place, _) => mark place
              | .error _ => pure ()
              return 0
            | .error refusal =>
              if refusal = .isDirectory then
                process.complain ("setting times of ".toList ++ marked name ++ ": ".toList
                  ++ reason.complaint.toList)
                return 1
              cannot process "touch" name refusal

/-- The permissions that an option gives, seen from others; nothing stands for a wrong mode. -/
def chosenMode (options : Arguments) (isDirectory : Bool) (usual : Nat) : Step (Option Nat) := do
  let mask := (← get).files.mask
  match options.value? 'm' with
  | none => return some (without usual mask)
  | some mode =>
    return (readMode? mode).map fun changes => changedMode changes mask isDirectory usual

/-- Makes one directory with some permissions, whose place has to be there. -/
def makeDirectory (process : Process) (mode : Nat) (shows : Bool) (name : List Char) :
    Step Nat := do
  match ← tryFiles fun files => files.make (textOfRaw name) (.directory 0o777) with
  | .ok () =>
    match ← nodeAt name with
    | .ok (place, _) =>
      changeFiles fun files => files.changeAt place fun node => { node with mode }
    | .error _ => pure ()
    if shows then
      process.say (closed (process.name ++ ": created directory ".toList ++ marked name))
    return 0
  | .error refusal => cannot process "create directory" name refusal

/-- The paths that lead to a path: those of its leading components, the shortest first. -/
def leadingPaths (name : List Char) : List (List Char) :=
  let pieces := (Text.pieces '/' name).filter (!·.isEmpty)
  let front := if name.head? = some '/' then ['/'] else []
  ((List.range pieces.length).drop 1).map fun i =>
    front ++ Text.joinWith ['/'] (pieces.take i)

/-- Makes a directory and those above it that are missing. -/
def makePath (process : Process) (mode : Nat) (shows : Bool) (name : List Char) : Step Nat := do
  let above := without 0o777 ((← get).files.mask &&& 0o077)
  let status ← (leadingPaths name).foldlM (fun status path => do
    if status ≠ 0 || (← leadsToDirectory path) then return status
    match ← nodeAt path with
    | .ok _ => cannot process "create directory" path .notDirectory
    | .error _ => makeDirectory process above shows path) 0
  if status ≠ 0 || (← leadsToDirectory name) then return status
  makeDirectory process mode shows name

/-- Makes directories. -/
def mkdir (process : Process) : Step Nat :=
  process.withOptions
    { plain := "pvZ", valued := "m"
      words := [("parents", 'p'), ("mode", 'm'), ("verbose", 'v')] }
    1 fun options => do
      if options.operands.isEmpty then return ← misuse process "missing operand".toList 1
      match ← chosenMode options true 0o777 with
      | none =>
        process.complain ("invalid mode ".toList ++ marked ((options.value? 'm').getD []))
        return 1
      | some mode =>
        onEach options.operands fun name =>
          (if options.has 'p' then makePath else makeDirectory) process mode (options.has 'v') name

/-- Removes an empty directory, unless that is refused. -/
def removeEmpty (name : List Char) : Step (Except Refusal Unit) :=
  tryFiles fun files =>
    if (lastComponent name) = ['.'] then .error .invalid
    else
      match files.find (textOfRaw name) (name.getLast? = some '/') with
      | .error refusal => .error refusal
      | .ok (place, node) =>
        if !node.isDirectory then .error .notDirectory
        else if !(files.entries place).isEmpty then .error .notEmpty
        else .ok (files.remove place)

/-- Removes empty directories. -/
def rmdir (process : Process) : Step Nat :=
  process.withOptions
    { plain := "pv"
      words := [("parents", 'p'), ("verbose", 'v'), ("ignore-fail-on-non-empty", '=')] } 1
    fun options => do
    if options.operands.isEmpty then return ← misuse process "missing operand".toList 1
    onEach options.operands fun name => do
      let above := if options.has 'p' then (leadingPaths name).reverse else []
      let (status, _) ← (name :: above).foldlM (fun (status, isOver) path => do
        if isOver then return (status, true)
        if options.has 'v' then
          process.say (closed (process.name ++ ": removing directory, ".toList ++ marked path))
        match ← removeEmpty path with
        | .ok () => return (status, false)
        | .error refusal =>
          if refusal = .notEmpty && options.has '=' then return (status, true)
          let what := if path = name then "remove" else "remove directory"
          return (← failed process what path refusal, true)) (0, false)
      return status

/-- Asks whether something is to be done; the answer is a line of standard input. -/
def agrees (process : Process) (question : List Char) : Step Bool := do
  process.warnPlainly (process.name ++ ": ".toList ++ question ++ "? ".toList)
  match process.descriptors.lookup 0 with
  | none => return false
  | some number =>
    let (line, _) ← takeLine pieceLimit number []
    return (rawOfBytes line).head?.any fun c => c = 'y' || c = 'Y'

/-- Removes what is at a name; what is in a directory is removed before it. -/
def removeAt (process : Process) (asks shows : Bool) (fuel : Nat) (path : List Char)
    (place : Name) : Step Nat := do
  match fuel, (← get).files.node? place with
  | fuel + 1, some node =>
    let consents (question : String) : Step Bool :=
      if asks then agrees process (question.toList ++ ' ' :: marked path) else return true
    let kind := if node.isDirectory then "directory" else node.kind
    if node.isDirectory then
      let entries := (← get).files.entries place
      if !entries.isEmpty then
        if !(← consents "descend into directory") then return 0
      let status ← (entries.map (·.1)).foldlM (fun status entry => do
        return max status
          (← removeAt process asks shows fuel (joined path (rawOf entry)) (place ++ [entry]))) 0
      if !((← get).files.entries place).isEmpty then
        if asks then return status
        return ← cannot process "remove" path .notEmpty
    if ← consents ("remove " ++ kind) then
      changeFiles fun files => files.remove place
      if shows then
        process.say (closed ((if node.isDirectory then "removed directory " else "removed ").toList
          ++ marked path))
    return 0
  | _, _ => return 0

/-- Removes one operand. -/
def removeOperand (process : Process) (options : Arguments) (name : List Char) : Step Nat := do
  let whole := options.has 'r' || options.has 'R'
  let asks := options.has 'i' && (options.options.reverse.find? fun o =>
    o.1 = 'i' || o.1 = 'f').map (·.1) = some 'i'
  let last := lastComponent name
  if whole && (last = ['.'] || last = ['.', '.']) then
    process.complain ("refusing to remove '.' or '..' directory: skipping ".toList ++ marked name)
    return 1
  match ← nodeAt name (name.getLast? = some '/' && !whole) with
  | .error refusal =>
    if options.has 'f' && (refusal = .notFound || refusal = .notDirectory) then return 0
    cannot process "remove" name refusal
  | .ok (place, node) =>
    if place = [] && whole then
      process.complain "it is dangerous to operate recursively on '/'".toList
      process.complain "use --no-preserve-root to override this failsafe".toList
      return 1
    if node.isLink && name.getLast? = some '/' then
      return ← cannot process "remove" name .notDirectory
    if node.isDirectory && !whole then
      if !options.has 'd' then return ← cannot process "remove" name .isDirectory
      if !((← get).files.entries place).isEmpty then
        return ← cannot process "remove" name .notEmpty
    removeAt process asks (options.has 'v') nestingLimit name place

/-- Removes files and, if so asked for, directories with all that is in them. -/
def rm (process : Process) : Step Nat :=
  process.withOptions
    { plain := "rRfivId"
      words := [("recursive", 'r'), ("force", 'f'), ("dir", 'd'), ("verbose", 'v'),
        ("interactive", 'i'), ("one-file-system", '='), ("no-preserve-root", '='),
        ("preserve-root", '=')] } 1
    fun options => do
      let names := options.operands
      if names.isEmpty && !options.has 'f' then
        return ← misuse process "missing operand".toList 1
      let whole := options.has 'r' || options.has 'R'
      if options.has 'I' && (whole || 3 < names.length) then
        let question := "remove ".toList ++ decimal names.length
          ++ (if names.length = 1 then " argument" else " arguments").toList
          ++ (if whole then " recursively" else "").toList
        if !(← agrees process question) then return 0
      onEach names (removeOperand process options)

/-- Removes the name of a file. -/
def unlink (process : Process) : Step Nat :=
  process.withOptions { plain := "" } 1 fun options => do
    match options.operands with
    | [] => misuse process "missing operand".toList 1
    | [name] =>
      match ← nodeAt name false with
      | .error refusal => cannot process "unlink" name refusal
      | .ok (place, node) =>
        if node.isDirectory then return ← cannot process "unlink" name .isDirectory
        changeFiles fun files => files.remove place
        return 0
    | _ :: extra :: _ => misuse process ("extra operand ".toList ++ marked extra) 1

/-- Makes named pipes. -/
def mkfifo (process : Process) : Step Nat :=
  process.withOptions { plain := "Z", valued := "m", words := [("mode", 'm')] } 1 fun options => do
    if options.operands.isEmpty then return ← misuse process "missing operand".toList 1
    match ← chosenMode options false 0o666 with
    | none =>
      process.complain "invalid mode".toList
      return 1
    | some mode =>
      onEach options.operands fun name => do
        match ← tryFiles fun files => files.make (textOfRaw name) ⟨.pipe {}, 0o666, 0⟩ with
        | .ok () =>
          changeFiles fun files =>
            match files.resolve (textOfRaw name) with
            | .ok place => files.changeAt place fun node => { node with mode }
            | .error _ => files
          return 0
        | .error refusal => cannot process "create fifo" name refusal

/-- Makes a named pipe, which is the only special file that can be made. -/
def mknod (process : Process) : Step Nat :=
  process.withOptions { plain := "Z", valued := "m", words := [("mode", 'm')] } 1 fun options => do
    match options.operands with
    | [] => misuse process "missing operand".toList 1
    | [name] => misuse process ("missing operand after ".toList ++ marked name) 1
    | [name, ['p']] =>
      match ← tryFiles fun files => files.make (textOfRaw name) ⟨.pipe {}, 0o666, 0⟩ with
      | .ok () => return 0
      | .error refusal =>
        process.warn (process.blame name refusal)
        return 1
    | name :: _ =>
      process.warn (process.blame name .notPermitted)
      return 1

/-- The characters that new names are made of. -/
def nameCharacters : List Char :=
  "abcdefghijklmnopqrstuvwxyzABCDEFGHIJKLMNOPQRSTUVWXYZ0123456789".toList

/-- So many characters without a pattern. -/
def scatteredName (count : Nat) : Step (List Char) :=
  modifyGet fun kernel : Kernel =>
    let (bytes, seed) := scatter count kernel.seed
    (bytes.map fun b => (nameCharacters[b.toNat % nameCharacters.length]?).getD 'a',
      { kernel with seed })

/-- Makes a file or a directory of a new name. -/
def mktemp (process : Process) : Step Nat :=
  process.withOptions
    { plain := "dqtuV", valued := "pS"
      words := [("directory", 'd'), ("quiet", 'q'), ("dry-run", 'u'), ("suffix", 'S'),
        ("tmpdir", 'P')] } 1 fun options => do
    if 1 < options.operands.length then
      return ← misuse process "too many templates".toList 1
    let template? := options.operands.head?
    let template := template?.getD "tmp.XXXXXXXXXX".toList
    let suffix := match options.value? 'S' with
      | some suffix => suffix
      | none => (template.reverse.takeWhile (· ≠ 'X')).reverse
    let stem := if (options.value? 'S').isSome then template
      else template.take (template.length - suffix.length)
    let front := (stem.reverse.dropWhile (· = 'X')).reverse
    let count := stem.length - front.length
    if count < 3 then
      process.complain ("too few X's in template ".toList ++ marked template)
      return 1
    let inherited := (givenValue process "TMPDIR".toList).filter (!·.isEmpty)
    let temporary := inherited.getD "/tmp".toList
    let given := (options.value? 'p' <|> options.value? 'P').filter (!·.isEmpty)
    let directory? :=
      if options.has 't' then some (inherited.getD (given.getD "/tmp".toList))
      else if options.has 'p' || options.has 'P' then some (given.getD temporary)
      else if template?.isNone then some temporary
      else none
    if directory?.isSome && template?.isSome && template.contains '/' then
      process.complain ("invalid template, ".toList ++ marked template
        ++ (if template.head? = some '/' then
            "; with --tmpdir, it may not be absolute"
          else ", contains directory separator").toList)
      return 1
    let place (s : List Char) : List Char :=
      match directory? with
      | some directory => joined directory s
      | none => s
    let name := place (front ++ (← scatteredName count) ++ suffix)
    let what := if options.has 'd' then "directory" else "file"
    let node : Node := if options.has 'd' then .directory 0o700 else .file 0o600 []
    let made ←
      if options.has 'u' then
        match ← nodeAt (leadingPart name) with
        | .ok _ => pure (.ok ())
        | .error refusal => pure (.error refusal)
      else tryFiles fun files => files.make (textOfRaw name) node
    match made with
    | .ok () =>
      process.say (closed name)
      return 0
    | .error refusal =>
      if !options.has 'q' then
        process.complain (("failed to create " ++ what ++ " via template ").toList
          ++ marked (place template) ++ ": ".toList ++ refusal.complaint.toList)
      return 1

end CheckedBuild.Machine.Tools
