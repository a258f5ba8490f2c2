import CheckedBuild.Machine.Tools.Modes

/-!
# Tools on links and names

A file may have several names, and a symbolic link stands for a path. These tools make links and
find out where paths lead.
-/

namespace CheckedBuild.Machine.Tools

open Process

/-- The path that leads from a directory to a name. -/
def relativePath (directory name : Name) : List Char :=
  let shared := ((directory.zip name).takeWhile fun (a, b) => a = b).length
  let upwards := (directory.drop shared).map fun _ => ['.', '.']
  let pieces := upwards ++ (name.drop shared).map rawOf
  if pieces.isEmpty then ['.'] else Text.joinWith ['/'] pieces

/-- The place of a path that may lead to nothing; from the first missing component on it is taken
as it is written. -/
def presumedPlace (files : FileSystem) (path : List Char) : Name :=
  let pieces := Text.pieces '/' path
  let places := (List.range (pieces.length + 1)).reverse.filterMap fun count =>
    let front := Text.joinWith ['/'] (pieces.take count)
    let front := if front.isEmpty then (if path.head? = some '/' then ['/'] else ['.']) else front
    match files.resolve (textOfRaw front) with
    | .ok name =>
      some ((pieces.drop count).foldl (fun name piece =>
        if piece.isEmpty || piece = ['.'] then name
        else if piece = ['.', '.'] then name.dropLast
        else name ++ [textOfRaw piece]) name)
    | .error _ => none
  places.headD []

/-- How much of a path has to be there. -/
inductive Presence where
  | whole
  | allButLast
  | nothing
deriving DecidableEq, Repr

/-- The place that a path leads to. -/
def destinationOf (files : FileSystem) (presence : Presence) (path : List Char) :
    Except Refusal Name :=
  match presence with
  | .whole => (files.find (textOfRaw path)).map (·.1)
  | .nothing => if path.isEmpty then .error .notFound else .ok (presumedPlace files path)
  | .allButLast =>
    let shorter := withoutEndSlashes path
    match files.resolve (textOfRaw shorter) with
    | .error refusal => .error refusal
    | .ok name =>
      match files.node? name with
      | some node => if shorter ≠ path && !node.isDirectory then .error .notDirectory else .ok name
      | none => if files.isDirectoryName name.dropLast then .ok name else .error .notFound

/-- Gives a file another name, or makes a link to a path. -/
def makeLink (process : Process) (options : Arguments) (source target : List Char) : Step Nat := do
  let symbolic := options.has 's'
  let files := (← get).files
  let refuse (text : List Char) : Step Nat := do
    process.complain ("failed to create ".toList ++ text)
    return 1
  let kind := (if symbolic then "symbolic link " else "hard link ").toList
  let found := if symbolic then none else some (files.find (textOfRaw source) (options.has 'L'))
  match found with
  | some (.error refusal) => failed process "access" source refusal
  | _ =>
    if let some (.ok (_, node)) := found then
      if node.isDirectory then
        process.complain (source ++ ": hard link not allowed for directory".toList)
        return 1
    let old := files.find (textOfRaw target) false
    let saved := options.has 'b' && old.toBool
    if let .ok (place, node) := old then
      if !options.has 'f' && !options.has 'b' then
        return ← refuse (kind ++ marked target ++ ": File exists".toList)
      let isSame := match found with
        | some (.ok (name, _)) =>
          name = place || (files.number? name).isSome && files.number? name = files.number? place
        | _ => false
      if isSame then
        if (found.bind fun found => (found.toOption).map (·.1)) ≠ some place then return 0
        process.complain (marked source ++ " and ".toList ++ marked target
          ++ " are the same file".toList)
        return 1
      if node.isDirectory then
        process.complain (target ++ ": cannot overwrite directory".toList)
        return 1
      changeFiles fun files =>
        if saved then files.move place (place.dropLast ++ [place.getLastD "" ++ "~"])
        else files.remove place
    let shown :=
      if symbolic && options.has 'r' then
        match files.resolve (textOfRaw (leadingPart target)), files.resolve (textOfRaw source) with
        | .ok directory, .ok name => relativePath directory name
        | .ok directory, .error _ => relativePath directory (presumedPlace files source)
        | _, _ => source
      else source
    let made ← tryFiles fun files =>
      match found with
      | some (.ok (name, node)) =>
        match files.make (textOfRaw target) node, files.number? name with
        | .ok after, some number =>
          match after.resolve (textOfRaw target) false with
          | .ok place => .ok (files.bind place number)
          | .error refusal => .error refusal
        | .error refusal, _ => .error refusal
        | _, none => .error .notPermitted
      | _ =>
        if shown.isEmpty then .error .notFound
        else files.make (textOfRaw target) (.link (textOfRaw shown))
    match made with
    | .ok () =>
      if options.has 'v' then
        process.say (closed (marked target ++ (if symbolic then " -> " else " => ").toList
          ++ marked shown))
      return 0
    | .error refusal =>
      let reason := ": ".toList ++ refusal.complaint.toList
      if symbolic then
        refuse (kind ++ marked target
          ++ (if source.isEmpty then " -> ".toList ++ marked source else []) ++ reason)
      else refuse (kind ++ marked target ++ " => ".toList ++ marked source ++ reason)

/-- Makes links. -/
def ln (process : Process) : Step Nat :=
  process.withOptions
    { plain := "sfnrvTbiLPdF", valued := "tS"
      words := [("symbolic", 's'), ("force", 'f'), ("no-dereference", 'n'), ("relative", 'r'),
        ("verbose", 'v'), ("no-target-directory", 'T'), ("target-directory", 't'),
        ("interactive", 'i'), ("logical", 'L'), ("physical", 'P'), ("backup", 'b')] } 1
    fun options => do
    let operands := options.operands
    let isDirectory (name : List Char) : Step Bool := do
      if options.has 'n' then
        match ← nodeAt name false with
        | .ok (_, node) => return node.isDirectory
        | .error _ => return false
      leadsToDirectory name
    let inside (directory : List Char) (sources : List (List Char)) : Step Nat :=
      onEach sources fun source =>
        makeLink process options source (joined directory (lastComponent source))
    match options.value? 't', operands with
    | _, [] => misuse process "missing file operand".toList 1
    | some directory, sources =>
      if ← leadsToDirectory directory then return ← inside directory sources
      process.complain ("target directory ".toList ++ marked directory ++ ": ".toList
        ++ (match ← nodeAt directory with
            | .ok _ => Refusal.notDirectory
            | .error refusal => refusal).complaint.toList)
      return 1
    | none, [source] =>
      if options.has 'T' then
        return ← misuse process ("missing destination file operand after ".toList ++ marked source) 1
      makeLink process options source ("./".toList ++ lastComponent source)
    | none, [source, target] =>
      if !options.has 'T' && (← isDirectory target) then inside target [source]
      else makeLink process options source target
    | none, first :: rest =>
      let directory := rest.getLastD []
      if options.has 'T' then
        return ← misuse process ("extra operand ".toList ++ marked ((rest[1]?).getD [])) 1
      if ← leadsToDirectory directory then inside directory (first :: rest.dropLast)
      else
        process.complain ("target ".toList ++ marked directory ++ ": ".toList
          ++ (match ← nodeAt directory with
              | .ok _ => Refusal.notDirectory
              | .error refusal => refusal).complaint.toList)
        return 1

/-- Gives a file another name. -/
def link (process : Process) : Step Nat :=
  process.withOptions { plain := "" } 1 fun options => do
    match options.operands with
    | [] => misuse process "missing operand".toList 1
    | [name] => misuse process ("missing operand after ".toList ++ marked name) 1
    | [source, target] =>
      let made ← tryFiles fun files =>
        match files.find (textOfRaw source) false, files.find (textOfRaw target) false with
        | .error refusal, _ => .error refusal
        | .ok (name, node), .error .notFound =>
          if node.isDirectory then .error .notPermitted
          else
            match files.number? name, files.resolve (textOfRaw target) false with
            | some number, .ok place =>
              if files.isDirectoryName place.dropLast then .ok (files.bind place number)
              else .error .notFound
            | _, .error refusal => .error refusal
            | none, _ => .error .notPermitted
        | _, .error refusal => .error refusal
        | _, .ok _ => .error .occupied
      match made with
      | .ok () => return 0
      | .error refusal =>
        process.complain ("cannot create link ".toList ++ marked target ++ " to ".toList
          ++ marked source ++ ": ".toList ++ refusal.complaint.toList)
        return 1
    | _ :: _ :: extra :: _ => misuse process ("extra operand ".toList ++ marked extra) 1

/-- How much of its operands has to be there, by the last option that says so. -/
def presenceOf (options : Arguments) (usual : Presence) : Presence :=
  (options.options.reverse.findSome? fun (letter, _) =>
    match letter with
    | 'e' => some Presence.whole
    | 'f' | 'E' => some .allButLast
    | 'm' => some .nothing
    | _ => none).getD usual

/-- Prints what links stand for, or where paths lead. -/
def readlink (process : Process) : Step Nat :=
  process.withOptions
    { plain := "femnqsvz"
      words := [("canonicalize", 'f'), ("canonicalize-existing", 'e'),
        ("canonicalize-missing", 'm'), ("no-newline", 'n'), ("quiet", 'q'), ("silent", 's'),
        ("verbose", 'v'), ("zero", 'z')] } 1 fun options => do
    let names := options.operands
    if names.isEmpty then return ← misuse process "missing operand".toList 1
    let isMany := 1 < names.length
    if isMany && options.has 'n' then
      process.complain "ignoring --no-newline with multiple arguments".toList
    let ends := if options.has 'n' && !isMany then []
      else if options.has 'z' then ['\x00'] else ['\n']
    let follows := options.has 'f' || options.has 'e' || options.has 'm'
    onEach names fun name => do
      let found : Except Refusal (List Char) ←
        if follows then
          pure ((destinationOf (← get).files (presenceOf options .allButLast) name).map pathOf)
        else
          match ← nodeAt name false with
          | .error refusal => pure (.error refusal)
          | .ok (_, node) =>
            match node.content with
            | .link target => pure (.ok (rawOf target))
            | _ => pure (.error .invalid)
      match found with
      | .ok path =>
        process.say (path ++ ends)
        return 0
      | .error refusal =>
        if options.has 'v' then process.warn (process.blame name refusal)
        return 1

/-- Prints the absolute names that paths lead to. -/
def realpath (process : Process) : Step Nat :=
  process.withOptions
    { plain := "eEmLPqszf", valued := "+-"
      words := [("canonicalize-existing", 'e'), ("canonicalize-missing", 'm'), ("logical", 'L'),
        ("physical", 'P'), ("quiet", 'q'), ("strip", 's'), ("no-symlinks", 's'), ("zero", 'z'),
        ("relative-to", '+'), ("relative-base", '-')] } 1 fun options => do
    if options.operands.isEmpty then return ← misuse process "missing operand".toList 1
    let files := (← get).files
    let presence := presenceOf options .allButLast
    let written (path : List Char) : Name :=
      let start := if path.head? = some '/' then [] else files.workingDirectory
      (Text.pieces '/' path).foldl (fun name piece =>
        if piece.isEmpty || piece = ['.'] then name
        else if piece = ['.', '.'] then name.dropLast
        else name ++ [textOfRaw piece]) start
    let place (path : List Char) : Except Refusal Name :=
      if options.has 's' then (destinationOf files presence path).map fun _ => written path
      else destinationOf files presence path
    let base? := (options.value? '-').bind fun path => (place path).toOption
    let start? := (options.value? '+').bind fun path => (place path).toOption
    onEach options.operands fun name => do
      match place name with
      | .ok found =>
        let isInside := base?.all fun base => base.isPrefixOf found
        let start? := start? <|> base?
        let path := match start? with
          | some start => if isInside then relativePath start found else pathOf found
          | none => pathOf found
        process.say (path ++ (if options.has 'z' then ['\x00'] else ['\n']))
        return 0
      | .error refusal =>
        if !options.has 'q' then
          process.warn (process.blame name refusal)
        return 1

/-- Prints where programs are found in the search path. -/
def which (process : Process) : Step Nat :=
  process.withOptions { plain := "as", strict := true } 2 fun options => do
    let files := (← get).files
    let searchPath := textOfRaw ((givenValue process "PATH".toList).getD [])
    if options.operands.isEmpty then return 1
    onEach options.operands fun name => do
      let paths := if name.contains '/' then [name]
        else (FileSystem.directoriesOf searchPath).map fun directory =>
          (if directory = "" then ['.'] else rawOf directory) ++ '/' :: name
      let found := paths.filter fun path => files.leadsTo Node.isExecutable (textOfRaw path)
      if !options.has 's' then
        process.say ((if options.has 'a' then found else found.take 1).flatMap closed)
      return if found.isEmpty then 1 else 0

end CheckedBuild.Machine.Tools
