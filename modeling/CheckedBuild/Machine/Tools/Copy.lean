import CheckedBuild.Machine.Tools.Files

/-!
# Tools that copy and move files

A file is copied or moved to a path, or into a directory under its last component. What is there
already is replaced, unless one of the two is a directory and the other one is not.
-/

namespace CheckedBuild.Machine.Tools

open Process

/-- The number of a node, which tells whether two names stand for the same one. -/
def numberAt (place : Name) : Step (Option Nat) := do
  return (← get).files.number? place

/-- A name with a mark for an older version. -/
def backupOf (place : Name) : Name := place.dropLast ++ [place.getLastD "" ++ "~"]

/-- Whether a target that is there may be replaced: `some status` ends its treatment. -/
def declines (process : Process) (options : Arguments) (moves : Bool) (node old : Node)
    (target : List Char) : Step (Option Nat) := do
  let last := (options.options.reverse.find? fun o =>
    o.1 = 'n' || o.1 = 'i' || o.1 = 'f').map (·.1)
  if last = some 'n' then
    if !moves then return some 0
    process.complain ("not replacing ".toList ++ marked target)
    return some 1
  if options.has 'u' && node.changed ≤ old.changed then return some 0
  if last = some 'i' then
    if !(← agrees process ("overwrite ".toList ++ marked target)) then return some 1
  return none

/-- The line that tells what became of what. -/
def transferred (source target : List Char) (saved : Bool) : List Char :=
  closed (marked source ++ " -> ".toList ++ marked target
    ++ (if saved then " (backup: ".toList ++ marked (target ++ ['~']) ++ [')'] else []))

/-- Gives a copy the permissions and the time of its source. -/
def preserve (options : Arguments) (node : Node) (place : Name) : Step Unit := do
  let kept := String.ofList ((options.value? '+').getD "mode,ownership,timestamps".toList)
  let lost := String.ofList ((options.value? '-').getD [])
  let names := (Text.pieces ',' kept.toList).map String.ofList
  let others := (Text.pieces ',' lost.toList).map String.ofList
  let keeps (name : String) : Bool :=
    (options.has 'p' || options.has 'a' || options.has '+')
      && (names.contains name || names.contains "all" || options.has 'a' || kept = "")
      && !others.contains name && !others.contains "all"
  if keeps "mode" then
    changeFiles fun files => files.changeAt place fun new => { new with mode := node.mode }
  if keeps "timestamps" then
    changeFiles fun files => files.changeAt place fun new => { new with changed := node.changed }

/-- Copies the contents of a file to a path; `isNew` tells that nothing is there. -/
def copyContents (process : Process) (options : Arguments) (isNew : Bool) (node : Node)
    (source target : List Char) : Step Nat := do
  let refuse (refusal : Refusal) : Step Nat :=
    cannot process "create regular file" target
      (if refusal = .isDirectory && isNew then .notDirectory else refusal)
  match node.content with
  | .tool _ =>
    match ← tryFiles fun files => (files.create false (textOfRaw target)).map (·.1) with
    | .error refusal => refuse refusal
    | .ok () =>
      match ← nodeAt target with
      | .ok (place, _) => changeFiles fun files => files.put place node
      | .error _ => pure ()
      return 0
  | _ =>
    match ← process.openFile source with
    | .error refusal =>
      process.complain ("cannot open ".toList ++ marked source ++ " for reading: ".toList
        ++ refusal.complaint.toList)
      return 1
    | .ok input =>
      let bytes ← takeAll pieceLimit input []
      match ← process.createFile (.write false) target with
      | .error refusal => refuse refusal
      | .ok output =>
        match ← putAll output bytes with
        | some refusal =>
          process.complain ("error writing ".toList ++ marked target ++ ": ".toList
            ++ refusal.complaint.toList)
          return 1
        | none =>
          if isNew then
            match ← nodeAt target with
            | .ok (place, _) =>
              changeFiles fun files => files.changeAt place fun new =>
                { new with mode := without (if node.isRegular then node.mode else 0o666) files.mask }
            | .error _ => pure ()
          match ← nodeAt target with
          | .ok (place, _) => preserve options node place
          | .error _ => pure ()
          return 0

/-- Whether links are gone through when something is copied. -/
def goesThrough (options : Arguments) (isTop : Bool) : Bool :=
  let whole := options.has 'r' || options.has 'R' || options.has 'a'
  options.has 'L' || (options.has 'H' && isTop)
    || !(whole || options.has 'P' || options.has 'd')

/-- Whether directories are copied with all that is in them. -/
def copiesWhole (options : Arguments) : Bool :=
  options.has 'r' || options.has 'R' || options.has 'a'

/-- Why something cannot be put in the place of what is there. -/
def conflict? (node old : Node) (source target : List Char) : Option (List Char) :=
  if !node.isDirectory && old.isDirectory then
    some ("cannot overwrite directory ".toList ++ marked target ++ " with non-directory".toList)
  else if node.isDirectory && !old.isDirectory then
    some ("cannot overwrite non-directory ".toList ++ marked target ++ " with directory ".toList
      ++ marked source)
  else none

/-- The files with one more name for what is under another name. -/
def withName (files : FileSystem) (origin : Name) (node : Node) (target : List Char) :
    Except Refusal FileSystem :=
  match files.number? origin, files.make (textOfRaw target) node with
  | some number, .ok after =>
    (after.resolve (textOfRaw target) false).map fun place => files.bind place number
  | _, .error refusal => .error refusal
  | none, _ => .error .notPermitted

/-- Copies something that is no directory to a path from which all that is in the way has been
taken. -/
def placeCopy (process : Process) (options : Arguments) (isNew saved : Bool) (origin : Name)
    (node : Node) (source target : List Char) : Step Nat := do
  let tell : Step Nat := do
    if options.has 'v' then process.say (transferred source target saved)
    return 0
  let place (what : String) (change : FileSystem → Except Refusal FileSystem) : Step Nat := do
    match ← tryFiles change with
    | .ok () => tell
    | .error refusal => cannot process what target refusal
  let path := textOfRaw target
  if options.has 's' then
    if target.contains '/' && source.head? ≠ some '/' then
      process.complain (target
        ++ ": can make relative symbolic links only in current directory".toList)
      return 1
    place "create symbolic link" fun files => files.make path (.link (textOfRaw source))
  else if options.has 'l' then
    place "create hard link" fun files => withName files origin node target
  else if node.isLink then
    place "create symbolic link" fun files => files.make path node
  else if node.letter = 'p' && copiesWhole options then
    place "create fifo" fun files => files.make path ⟨.pipe {}, node.mode, 0⟩
  else
    let _ ← tell
    copyContents process options isNew node source target

mutual

/-- Copies one thing to a path, with all that is in it if it is a directory. -/
def copyTo (process : Process) (options : Arguments) (isTop : Bool) (fuel : Nat)
    (source target : List Char) : Step Nat := do
  match fuel with
  | 0 => return 1
  | fuel + 1 =>
    let refuse (message : List Char) : Step Nat := do
      process.complain message
      return 1
    match ← nodeAt source (goesThrough options isTop) with
    | .error refusal => cannot process "stat" source refusal
    | .ok (origin, node) =>
      if node.isDirectory && !copiesWhole options then
        return ← refuse ("-r not specified; omitting directory ".toList ++ marked source)
      let found := (← nodeAt target).toOption
      let itself := (← nodeAt target false).toOption
      let old? := if node.isLink || options.has '!' then itself else found
      if let some (place, old) := old? then
        let isSame := place = origin
          || ((← numberAt place).isSome && (← numberAt place) = (← numberAt origin))
        if isSame && !(node.isDirectory && options.has 'T') then
          if options.has 'l' then return 0
          return ← refuse (marked source ++ " and ".toList ++ marked target
            ++ " are the same file".toList)
        if let some message := conflict? node old source target then return ← refuse message
        if !node.isDirectory then
          if let some status ← declines process options false node old target then return status
      else if itself.isSome && !node.isDirectory && !options.has 's' && !options.has 'l' then
        return ← refuse ("not writing through dangling symlink ".toList ++ marked target)
      if node.isDirectory then
        return ← copyDirectory process options fuel origin node old?.isNone source target
      let saved := options.has 'b' && itself.isSome
      if let some (place, _) := itself then
        if saved then changeFiles fun files => files.move place (backupOf place)
        else if options.has '!' || node.isLink then
          changeFiles fun files => files.remove place
          if options.has 'v' && options.has '!' then
            process.say (closed ("removed ".toList ++ marked target))
      placeCopy process options (saved || options.has '!' || found.isNone) saved origin node source
        target

/-- Copies a directory to a path with all that is in it. -/
def copyDirectory (process : Process) (options : Arguments) (fuel : Nat) (origin : Name)
    (node : Node) (isNew : Bool) (source target : List Char) : Step Nat := do
  match fuel with
  | 0 => return 1
  | fuel + 1 =>
    let entries := (((← get).files.entries origin).map (·.1)).mergeSort fun a b => a ≤ b
    let made ←
      if isNew then
        tryFiles fun files => files.make (textOfRaw target) (.directory node.mode)
      else pure (.ok ())
    match made with
    | .error refusal => cannot process "create directory" target refusal
    | .ok () =>
      if isNew && options.has 'v' then process.say (transferred source target false)
      match ← nodeAt target with
      | .error refusal => cannot process "stat" target refusal
      | .ok (place, _) =>
        let isInside := origin.isPrefixOf place
        let status ← entries.foldlM (fun status entry => do
          if (origin ++ [entry]).isPrefixOf place then
            return status
          return max status
            (← copyTo process options false fuel (joined source (rawOf entry))
              (joined target (rawOf entry)))) 0
        preserve options node place
        if isInside then
          process.complain ("cannot copy a directory, ".toList ++ marked source
            ++ ", into itself, ".toList ++ marked target)
          return 1
        return status

end

/-- Runs a step on each source and its target: the last operand, or a path in the directory that
is given or that the last operand names. -/
def onTargets (process : Process) (options : Arguments)
    (step : List Char → List Char → Step Nat) : Step Nat := do
  let operands := options.operands
  let reason (directory : List Char) : Step Refusal := do
    match ← nodeAt directory with
    | .ok _ => return .notDirectory
    | .error refusal => return refusal
  let inside (directory : List Char) (sources : List (List Char)) : Step Nat :=
    onEach sources fun source =>
      let last := lastComponent source
      step source (if last = ['.', '.'] || last = ['.'] then joined directory ['.']
        else joined directory last)
  match options.value? 't', operands with
  | _, [] => misuse process "missing file operand".toList 1
  | some directory, sources =>
    if ← leadsToDirectory directory then return ← inside directory sources
    process.complain ((if process.shortName = "install".toList then "failed to access "
        else "target directory ").toList ++ marked directory ++ ": ".toList
      ++ (← reason directory).complaint.toList)
    return 1
  | none, [source] =>
    misuse process ("missing destination file operand after ".toList ++ marked source) 1
  | none, [source, target] =>
    if !options.has 'T' && (← leadsToDirectory target) then inside target [source]
    else step source target
  | none, first :: rest =>
    let directory := rest.getLastD []
    if options.has 'T' then
      return ← misuse process ("extra operand ".toList ++ marked ((rest[1]?).getD [])) 1
    if ← leadsToDirectory directory then inside directory (first :: rest.dropLast)
    else
      process.complain ("target ".toList ++ marked directory ++ ": ".toList
        ++ (← reason directory).complaint.toList)
      return 1

/-- The words for options that copying and moving share. -/
def transferWords : List (String × Char) :=
  [("force", 'f'), ("interactive", 'i'), ("no-clobber", 'n'), ("update", 'u'), ("verbose", 'v'),
   ("no-target-directory", 'T'), ("target-directory", 't'), ("backup", 'b'),
   ("strip-trailing-slashes", '/')]

/-- Makes the directories that lead to a path in a directory. -/
def makeParents (process : Process) (options : Arguments) (directory source : List Char) :
    Step Nat :=
  (leadingPaths source).foldlM (fun status path => do
    let target := joined directory path
    if status ≠ 0 || (← leadsToDirectory target) then return status
    let status ← makeDirectory process (without 0o777 (← get).files.mask) false target
    if options.has 'v' && status = 0 then
      process.say (path ++ " -> ".toList ++ closed target)
    return status) 0

/-- Copies files to a path or into a directory. -/
def cp (process : Process) : Step Nat :=
  process.withOptions
    { plain := "rRapfnivTdLPHlsubxZ", valued := "tS"
      words := transferWords ++ [("recursive", 'r'), ("archive", 'a'), ("link", 'l'),
        ("symbolic-link", 's'), ("dereference", 'L'), ("no-dereference", 'P'), ("parents", '^'),
        ("preserve", '+'), ("no-preserve", '-'), ("remove-destination", '!'),
        ("one-file-system", 'x'), ("attributes-only", '=')] } 1
    fun options => do
    if options.has 'n' then
      process.complain ("warning: behavior of -n is non-portable and may change in future; "
        ++ "use --update=none instead").toList
    let options := if options.value? 'u' = some "none".toList then
        { options with options := ('n', []) :: options.options.filter (·.1 != 'u') }
      else options
    if options.has '^' then
      let directory := (options.value? 't').getD (options.operands.getLastD [])
      let sources := if options.has 't' then options.operands else options.operands.dropLast
      if !(← leadsToDirectory directory) then
        return ← misuse process "with --parents, the destination must be a directory".toList 1
      return ← onEach sources fun source => do
        if !(← nodeAt source).toBool then return ← copyTo process options true 1 source directory
        let status ← makeParents process options directory source
        if status ≠ 0 then return status
        copyTo process options true nestingLimit source (joined directory source)
    onTargets process options (copyTo process options true nestingLimit)

/-- Moves one thing to a path. -/
def moveTo (process : Process) (options : Arguments) (source target : List Char) : Step Nat := do
  let refuse (message : List Char) : Step Nat := do
    process.complain message
    return 1
  let moveRefused (refusal : Refusal) : Step Nat :=
    refuse ("cannot move ".toList ++ marked source ++ " to ".toList ++ marked target
      ++ ": ".toList ++ refusal.complaint.toList)
  match ← nodeAt source false with
  | .error refusal => cannot process "stat" source refusal
  | .ok (origin, node) =>
    let old? := (← nodeAt target false).toOption
    if let some (place, old) := old? then
      let isSame := place = origin
        || ((← numberAt place).isSome && (← numberAt place) = (← numberAt origin))
      if isSame then
        return ← refuse (marked source ++ " and ".toList ++ marked target
          ++ " are the same file".toList)
      if let some message := conflict? node old source target then return ← refuse message
      if let some status ← declines process options true node old target then return status
      if old.isDirectory && !((← get).files.entries place).isEmpty then
        return ← refuse ("cannot overwrite ".toList ++ marked target ++ ": ".toList
          ++ Refusal.notEmpty.complaint.toList)
    let saved := options.has 'b' && old?.isSome
    if let some (place, _) := old? then
      if saved then changeFiles fun files => files.move place (backupOf place)
    let shorter := withoutEndSlashes target
    match (← get).files.resolve (textOfRaw shorter) false with
    | .error refusal => moveRefused refusal
    | .ok place =>
      if place ≠ origin && origin.isPrefixOf place then
        return ← refuse ("cannot move ".toList ++ marked source
          ++ " to a subdirectory of itself, ".toList ++ marked target)
      if !(← get).files.isDirectoryName place.dropLast then return ← moveRefused .notFound
      if shorter ≠ target && !node.isDirectory then return ← moveRefused .notDirectory
      changeFiles fun files => files.move origin place
      if options.has 'v' then process.say ("renamed ".toList ++ transferred source target saved)
      return 0

/-- Moves files to a path or into a directory. -/
def mv (process : Process) : Step Nat :=
  process.withOptions { plain := "finuvTbZ", valued := "tS", words := transferWords } 1
    fun options => onTargets process options (moveTo process options)

/-- Copies one file with fresh permissions. -/
def installTo (process : Process) (options : Arguments) (mode : Nat)
    (source target : List Char) : Step Nat := do
  match ← nodeAt source with
  | .error refusal => cannot process "stat" source refusal
  | .ok (_, node) =>
    if node.isDirectory then
      process.complain ("omitting directory ".toList ++ marked source)
      return 1
    let status ← copyTo process { options with options := ('!', []) :: options.options } true
      nestingLimit source target
    if status = 0 then
      match ← nodeAt target with
      | .ok (place, _) => changeFiles fun files => files.changeAt place fun new => { new with mode }
      | .error _ => pure ()
    return status

/-- Copies files and sets their permissions, or makes directories. -/
def install (process : Process) : Step Nat :=
  process.withOptions
    { plain := "bcCdDpsTvZ", valued := "tSgom"
      words := transferWords ++ [("directory", 'd'), ("mode", 'm'), ("group", 'g'),
        ("owner", 'o'), ("preserve-timestamps", 'p'), ("strip", 's'), ("compare", 'C')] } 1
    fun options => do
    let mode? := match options.value? 'm' with
      | none => some 0o755
      | some mode => (readMode? mode).map fun changes => changedMode changes 0 (options.has 'd') 0
    match mode? with
    | none =>
      process.complain ("invalid mode ".toList ++ marked ((options.value? 'm').getD []))
      return 1
    | some mode =>
      -- permissions come from the mode, and the time may be kept
      let kept := options.options.filter fun o =>
        o.1 ≠ 'd' && o.1 ≠ 's' && o.1 ≠ 'm' && o.1 ≠ 'p'
      let preserved := if options.has 'p' then [('+', "timestamps".toList)] else []
      let inner := { options with options := kept ++ preserved }
      if options.has 'd' then
        if options.operands.isEmpty then
          return ← misuse process "missing file operand".toList 1
        return ← onEach options.operands fun name => do
          match ← nodeAt name with
          | .ok (place, node) =>
            if !node.isDirectory then
              return ← cannot process "create directory" name .occupied
            changeFiles fun files => files.changeAt place fun new => { new with mode }
            return 0
          | .error _ => makePath process mode (options.has 'v') name
      if options.has 'D' then
        match options.value? 't', inner.operands with
        | some directory, _ =>
          if !(← leadsToDirectory directory) then
            let _ ← makePath process 0o755 (options.has 'v') directory
        | none, [_, target] =>
          let above := leadingPart target
          if !(← leadsToDirectory above) then
            let _ ← makePath process 0o755 (options.has 'v') above
        | none, _ => pure ()
      onTargets process inner (installTo process inner mode)

end CheckedBuild.Machine.Tools
