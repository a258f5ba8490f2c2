import CheckedBuild.Archive.Tar.Entry
import CheckedBuild.Machine.Tools.Gzip
import CheckedBuild.Machine.Tools.Modes
import CheckedBuild.Shell.Pattern
import CheckedBuild.Text.Calendar

/-!
# Collecting files in archives

Files and what is below directories are written to an archive, and an archive is shown or its
entries are put back into their places. An error does not stop the work unless nothing is left to
be done; in the end it is told that there was one.
-/

namespace CheckedBuild.Machine.Tools

open Process
open Tar (Entry)

/-- How an archive is worked with. -/
structure Collecting where
  arguments : Arguments
  /-- The archive, which may be standard input or output. -/
  archive : List Char

/-- What is done with an archive. -/
inductive CollectingTask where
  | create
  | extract
  | list
  | append
deriving DecidableEq

namespace Collecting

/-- Whether an option is given. -/
def has (collecting : Collecting) (letter : Char) : Bool := collecting.arguments.has letter

/-- Whether names are shown as they are worked on. -/
def tells (collecting : Collecting) : Bool := collecting.has 'v'

/-- Whether a name is left out. -/
def excludes (collecting : Collecting) (name : List Char) : Bool :=
  (collecting.arguments.values 'e').any fun pattern =>
    Shell.matchesPattern false pattern name
      || Shell.matchesPattern false pattern (lastComponent name)

end Collecting

/-- Reports a fault; the status is a failure. -/
def collectingFault (process : Process) (message : List Char) : Step Nat := do
  process.warn ("tar: ".toList ++ message)
  return 2

/-- Reports a fault that ends everything. -/
def collectingEnd (process : Process) (message : List Char) : Step Nat := do
  let _ ← collectingFault process message
  collectingFault process "Error is not recoverable: exiting now".toList

/-- Reports in the end that something failed. -/
def collectingResult (process : Process) (status : Nat) : Step Nat := do
  if status = 0 then return 0
  collectingFault process "Exiting with failure status due to previous errors".toList

/-- Reports a wrong use of the tool. -/
def collectingMisuse (process : Process) (message : List Char) : Step Nat := do
  process.warn ("tar: ".toList ++ message)
  process.warn "Try 'tar --help' or 'tar --usage' for more information.".toList
  return 2

/-- The entries so far, the last one first, with the numbers of the nodes that they stand for. -/
structure Collected where
  reversed : List (Entry × Nat) := []
  status : Nat := 0
  /-- Whether it has been reported that names are shortened. -/
  shortened : Bool := false

/-- A name as it stands in an archive, without slashes in front. -/
def archivedName (name : List Char) : List Char := name.dropWhile (· = '/')

/-- An entry for a node; a node that has an entry already gets one that refers to it. -/
def entryFor (collected : Collected) (name : List Char) (number : Nat) (node : Node) :
    Option Entry :=
  let make (kind : Tar.EntryKind) (data : Bytes) : Entry :=
    ⟨bytesOfRaw name, kind, node.mode, node.changed / 1000000000, data⟩
  match node.content with
  | .directory => some (make .directory [])
  | .link target => some (make (.link (Utf8.bytesOf target)) [])
  | .pipe _ => some (make .pipe [])
  | .file data =>
    match collected.reversed.find? fun entry => entry.2 = number with
    | some (first, _) => some (make (.sameAs first.name) [])
    | none => some (make .file data.bytes)
  | .tool _ => some (make .file node.bytes)
  | .device _ => none

/-- Collects what stands under a path, and what is below it. -/
def collectBelow (process : Process) (collecting : Collecting) (toErrors : Bool) (fuel : Nat)
    (path name : List Char) (collected : Collected) : Step Collected := do
  if collecting.excludes name then return collected
  let files := (← get).files
  match files.find (textOfRaw path) (collecting.has 'h') with
  | .error refusal =>
    let status ← collectingFault process
      (name ++ ": Cannot stat: ".toList ++ refusal.complaint.toList)
    return { collected with status }
  | .ok (place, node) =>
    let own := (files.resolve (textOfRaw collecting.archive)).toOption
    if collecting.archive ≠ ['-'] && own = some place then
      process.warn ("tar: ".toList ++ name
        ++ ": archive cannot contain itself; not dumped".toList)
      return collected
    let shown := if node.isDirectory then withoutEndSlashes name ++ ['/'] else name
    let collected ←
      if shown.head? = some '/' && !collected.shortened then do
        process.warn "tar: Removing leading `/' from member names".toList
        pure { collected with shortened := true }
      else pure collected
    let number := (files.number? place).getD files.nodes.size
    match entryFor collected (archivedName shown) number node with
    | none => return collected
    | some entry =>
      if collecting.tells then
        (if toErrors then process.warn shown else process.say (closed shown))
      let collected :=
        { collected with reversed := (entry, number) :: collected.reversed }
      match fuel, node.isDirectory with
      | fuel + 1, true =>
        (files.entries place).foldlM (fun collected (child, _) =>
          collectBelow process collecting toErrors fuel (joined path (rawOf child))
            (joined shown (rawOf child)) collected) collected
      | _, _ => return collected

/-- Collects the named files. -/
def collectNamed (process : Process) (collecting : Collecting) (toErrors : Bool) :
    Step Collected := do
  let start := (collecting.arguments.value? 'C').getD []
  collecting.arguments.operands.foldlM (fun collected name =>
    let path := if start.isEmpty || name.head? = some '/' then name else joined start name
    collectBelow process collecting toErrors nestingLimit path name collected) {}

/-- Writes an archive. -/
def putArchive (process : Process) (collecting : Collecting) (bytes : Bytes) :
    Step (Except Nat Unit) := do
  let bytes := if collecting.has 'z' then Gzip.packMember .usual 0 none bytes else bytes
  if collecting.archive = ['-'] then
    match (← get).putRefusal? process.descriptors 1 with
    | none =>
      process.say (rawOfBytes bytes)
      return .ok ()
    -- an output that is not open is not written to
    | some .badDescriptor => return .ok ()
    | some refusal =>
      process.warn ("tar: -: Cannot write: " ++ refusal.complaint).toList
      process.warn "tar: Error is not recoverable: exiting now".toList
      return .error 2
  match ← tryFiles fun files => files.write (textOfRaw collecting.archive) bytes with
  | .ok () => return .ok ()
  | .error refusal =>
    return .error (← collectingEnd process
      (collecting.archive ++ ": Cannot open: ".toList ++ refusal.complaint.toList))

/-- Writes an archive of the named files behind some other entries. -/
def createArchive (process : Process) (collecting : Collecting) (before : List Entry) :
    Step Nat := do
  if collecting.arguments.operands.isEmpty && before.isEmpty then
    return ← collectingMisuse process "Cowardly refusing to create an empty archive".toList
  match collecting.arguments.value? 'C' with
  | some start =>
    match ← nodeAt start with
    | .error refusal =>
      return ← collectingEnd process
        (start ++ ": Cannot open: ".toList ++ refusal.complaint.toList)
    | .ok _ => pure ()
  | none => pure ()
  -- the archive is there before anything is collected
  if collecting.archive ≠ ['-'] then
    match ← tryFiles fun files => (files.create true (textOfRaw collecting.archive)).map (·.1) with
    | .ok () => pure ()
    | .error refusal =>
      return ← collectingEnd process
        (collecting.archive ++ ": Cannot open: ".toList ++ refusal.complaint.toList)
  let collected ← collectNamed process collecting (collecting.archive = ['-'])
  let entries := before ++ collected.reversed.reverse.map (·.1)
  match ← putArchive process collecting (Tar.writeEntries entries) with
  | .error status => return status
  | .ok () => collectingResult process collected.status

/-- Reads the stream of an archive. -/
def readArchive (process : Process) (collecting : Collecting) : Step (Except Nat Bytes) := do
  let isFile := collecting.archive ≠ ['-']
  let opened ← process.openInput (if isFile then some collecting.archive else none)
  match opened with
  | .error refusal =>
    return .error (← collectingEnd process
      (collecting.archive ++ ": Cannot open: ".toList ++ refusal.complaint.toList))
  | .ok number =>
    let isSeekable := (← get).isFile number
    let bytes := bytesOfRaw (← readAll number)
    let isPacked := [0x1f, 0x8b].isPrefixOf bytes
    if collecting.has 'z' || (isPacked && isSeekable) then
      match Gzip.unpackMember bytes with
      | .ok (_, stream, _) => return .ok stream
      | .error error =>
        packingMessage process true "stdin".toList (packedFault error)
        let _ ← collectingFault process "Child returned status 1".toList
        return .error (← collectingFault process "Error is not recoverable: exiting now".toList)
    else if isPacked then
      return .error (← collectingEnd process "Archive is compressed. Use -z option".toList)
    else return .ok bytes

/-- The line that tells everything about an entry. -/
def entryLine (entry : Entry) (fullTime : Bool) : List Char :=
  let letter := match entry.kind with
    | .directory => 'd'
    | .link _ => 'l'
    | .sameAs _ => 'h'
    | .pipe => 'p'
    | _ => '-'
  let date := Text.Calendar.dateOf (entry.time : Nat) 0
  let size := decimal entry.data.length
  let tail := match entry.kind with
    | .link target => " -> ".toList ++ rawOfBytes target
    | .sameAs target => " link to ".toList ++ rawOfBytes target
    | _ => []
  letter :: modeLetters entry.mode ++ " root/root ".toList
    ++ ({ width := 9 } : Format.Field).text size ++ ' '
    :: date.written (if fullTime then "%Y-%m-%d %H:%M:%S" else "%Y-%m-%d %H:%M").toList
    ++ ' ' :: rawOfBytes entry.name ++ tail

/-- Whether a name on the command line stands for an entry: for itself or something below it. -/
def standsFor (wanted : List Char) (name : List Char) : Bool :=
  let wanted := withoutEndSlashes wanted
  let bare := withoutEndSlashes name
  bare = wanted || (wanted ++ ['/']).isPrefixOf bare

/-- The entries that are asked for, and the names for which there are none. -/
def wantedEntries (collecting : Collecting) (entries : List Entry) :
    List Entry × List (List Char) :=
  let names := collecting.arguments.operands
  let kept := entries.filter fun entry =>
    let name := rawOfBytes entry.name
    (names.isEmpty || names.any fun wanted => standsFor wanted name)
      && !collecting.excludes (withoutEndSlashes name)
  (kept, names.filter fun wanted =>
    !entries.any fun entry => standsFor wanted (rawOfBytes entry.name))

/-- A path without some of its leading components. -/
def stripped (count : Nat) (path : List Char) : List Char :=
  match count with
  | 0 => path
  | count + 1 =>
    stripped count ((path.dropWhile (· ≠ '/')).dropWhile (· = '/'))

/-- Makes the directories above a path. -/
def makeAbove (path : List Char) : Step Unit :=
  (List.range path.length).forM fun i => do
    if path[i]? = some '/' && 0 < i then
      let _ ← tryFiles fun files => files.make (textOfRaw (path.take i)) (.directory 0o777)

/-- Puts an entry back into its place. -/
def extractEntry (process : Process) (collecting : Collecting) (start path : List Char)
    (entry : Entry) : Step Nat := do
  let whole (path : List Char) : List Char :=
    if start.isEmpty || path.head? = some '/' then path else joined start path
  let target := whole path
  makeAbove target
  let found := (← get).files.find (textOfRaw target) false
  let shown := path
  let settle : Step Unit := do
    match (← get).files.resolve (textOfRaw target) false with
    | .ok place =>
      let now := (← get).files.now
      let changed := if collecting.has 'm' then now else entry.time * 1000000000
      changeFiles fun files => files.changeAt place fun node => { node with
        mode := if node.isLink then node.mode else entry.mode, changed }
    | .error _ => pure ()
  let make (node : Node) : Step Nat := do
    match found with
    | .ok (place, old) =>
      if collecting.has 'k' then
        return ← collectingFault process (shown ++ ": Cannot open: File exists".toList)
      if old.isDirectory && !((← get).files.entries place).isEmpty then
        return ← collectingFault process (shown ++ ": Cannot open: Is a directory".toList)
      changeFiles fun files => files.remove place
    | .error _ => pure ()
    match ← tryFiles fun files => files.make (textOfRaw target) node with
    | .error refusal =>
      collectingFault process (shown ++ ": Cannot open: ".toList ++ refusal.complaint.toList)
    | .ok () =>
      settle
      return 0
  match entry.kind with
  | .directory =>
    if ← leadsToDirectory target then
      settle
      return 0
    make (.directory entry.mode)
  | .file | .other => make (.file entry.mode entry.data)
  | .pipe => make ⟨.pipe {}, entry.mode, 0⟩
  | .link other => make (.link (Utf8.textOf other))
  | .sameAs other =>
    let other := rawOfBytes other
    let files := (← get).files
    match (files.resolve (textOfRaw (whole other)) false).toOption.bind files.number?,
      (files.resolve (textOfRaw target) false).toOption with
    | some number, some place =>
      changeFiles fun files => files.bind place number
      return 0
    | _, _ =>
      collectingFault process (shown ++ ": Cannot hard link to ".toList ++ marked other
        ++ ": No such file or directory".toList)

/-- Shows the entries of an archive, or puts them back into their places. -/
def unfoldArchive (process : Process) (collecting : Collecting) (task : CollectingTask) :
    Step Nat := do
  match ← readArchive process collecting with
  | .error status => return status
  | .ok stream =>
    let (entries, error) := Tar.readEntries (stream.length / Tar.blockSize + 2) {} true stream
    let (wanted, missing) := wantedEntries collecting entries
    let start := (collecting.arguments.value? 'C').getD []
    if task = .extract && !start.isEmpty then
      if !(← leadsToDirectory start) then
        return ← collectingEnd process
          (start ++ ": Cannot open: No such file or directory".toList)
    let count := ((collecting.arguments.value? 's').bind Text.natural?).getD 0
    let toErrors := collecting.has 'O'
    let (status, _) ← wanted.foldlM (fun ((status, shortened) : Nat × Bool) entry => do
      let name := rawOfBytes entry.name
      if task = .list then
        let line := if collecting.tells then entryLine entry (collecting.has 'F') else name
        process.say (closed line)
        return (status, shortened)
      if collecting.tells then
        (if toErrors then process.warn name else process.say (closed name))
      if collecting.has 'O' then
        process.say (rawOfBytes entry.data)
        return (status, shortened)
      let isAbsolute := name.head? = some '/' && !collecting.has 'P'
      if isAbsolute && !shortened then
        process.warn "tar: Removing leading `/' from member names".toList
      let path := stripped count (if isAbsolute then archivedName name else name)
      if (withoutEndSlashes path).isEmpty then return (status, shortened || isAbsolute)
      let result ← extractEntry process collecting start path entry
      return (max status result, shortened || isAbsolute)) (0, false)
    let status ← match error with
      | some .foreign =>
        if entries.isEmpty then
          collectingFault process "This does not look like a tar archive".toList
        else collectingFault process "Skipping to next header".toList
      | some .cutShort =>
        let _ ← collectingFault process "Unexpected EOF in archive".toList
        return ← collectingFault process "Error is not recoverable: exiting now".toList
      | none => pure status
    let status ← missing.foldlM (fun _ name =>
      collectingFault process (name ++ ": Not found in archive".toList)) status
    collectingResult process status

/-- The options that collecting files has. -/
def collectingTable : OptionTable :=
  { plain := "cxtrvzkpmOhPSw", valued := "fCseTb"
    words := [("create", 'c'), ("extract", 'x'), ("get", 'x'), ("list", 't'), ("append", 'r'),
      ("verbose", 'v'), ("gzip", 'z'), ("gunzip", 'z'), ("file", 'f'), ("directory", 'C'),
      ("strip-components", 's'), ("exclude", 'e'), ("keep-old-files", 'k'), ("to-stdout", 'O'),
      ("preserve-permissions", 'p'), ("touch", 'm'), ("dereference", 'h'),
      ("absolute-names", 'P'), ("full-time", 'F'), ("sort", '!'), ("owner", '!'),
      ("group", '!'), ("mtime", '!'), ("numeric-owner", '!'), ("format", '!')] }

/-- Arguments whose first one may be letters of options without a dash, which take their values
from the arguments behind it. -/
def withDashes (arguments : List (List Char)) : Except Char (List (List Char)) :=
  match arguments with
  | letters :: rest =>
    if letters.head? = some '-' || letters.isEmpty then .ok arguments
    else
      go letters [] rest
  | [] => .ok []
where
  /-- Gives each letter a dash and its value. -/
  go (letters : List Char) (options rest : List (List Char)) : Except Char (List (List Char)) :=
    match letters with
    | [] => .ok (options ++ rest)
    | letter :: letters =>
      if ['f', 'C', 'T', 'b'].contains letter then
        match rest with
        | value :: rest => go letters (options ++ [['-', letter], value]) rest
        | [] => .error letter
      else go letters (options ++ [['-', letter]]) rest

/-- Collects files in an archive, shows an archive or puts its files back. -/
def tar (process : Process) : Step Nat := do
  match withDashes process.arguments with
  | .error letter =>
    collectingMisuse process
      ("Old option ".toList ++ marked [letter] ++ " requires an argument.".toList)
  | .ok words =>
    match collectingTable.read (words.length + 1) words with
    | .error message => collectingMisuse process message
    | .ok arguments =>
      let tasks : List (Char × CollectingTask) :=
        [('c', .create), ('x', .extract), ('t', .list), ('r', .append)]
      let chosen := tasks.filter fun (letter, _) => arguments.has letter
      let collecting : Collecting := ⟨arguments, (arguments.value? 'f').getD ['-']⟩
      match chosen with
      | [] =>
        collectingMisuse process
          ("You must specify one of the '-Acdtrux', '--delete' or '--test-label' "
            ++ "options").toList
      | [(_, .create)] => createArchive process collecting []
      | [(_, .append)] =>
        let stream := match (← get).files.read (textOfRaw collecting.archive) with
          | .ok bytes => bytes
          | .error _ => []
        let fuel := stream.length / Tar.blockSize + 2
        createArchive process collecting (Tar.readEntries fuel {} false stream).1
      | [(_, task)] => unfoldArchive process collecting task
      | _ =>
        collectingMisuse process
          ("You may not specify more than one '-Acdtrux', '--delete' or  '--test-label' "
            ++ "option").toList

end CheckedBuild.Machine.Tools
