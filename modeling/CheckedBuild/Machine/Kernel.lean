import CheckedBuild.Machine.Raw
import CheckedBuild.Machine.Table

/-!
# Streams of running processes

Processes read and write streams, which are numbered. A pipe has two streams, one for its readers
and one for its writers; both stand for a node that no name leads to, unless it is a named pipe.
It is at its end when nobody writes it any more, and broken when nobody reads it. An open file is
read and written at a position of its own.
-/

namespace CheckedBuild.Machine

/-- A file or a pipe that has been opened. -/
structure OpenFile where
  /-- The number of the node. -/
  number : Nat
  position : Nat := 0
  /-- What comes after the position, as far as it has been fetched. -/
  ahead : Bytes := []
  reads : Bool := false
  writes : Bool := false
  /-- Whatever is written goes to the end. -/
  appends : Bool := false
  /-- If nobody had opened the other end of a named pipe yet, how often that had been opened. -/
  openings : Option Nat := none
deriving Repr

/-- Something that bytes are read from or written to. -/
inductive Stream where
  /-- What is left to read of a text. -/
  | source (rest : Bytes)
  /-- The pieces written so far, the last one first. -/
  | sink (pieces : List Bytes)
  | file (file : OpenFile)
  /-- A directory, which can be opened but not be read. -/
  | directory
  | device (device : Device)
deriving Repr

/-- The stream that holds nothing and takes everything. -/
def Stream.null : Stream := .device .null

/-- The descriptors of a process: which stream each one stands for. -/
abbrev Descriptors := List (Nat × Nat)

/-- The streams of descriptors. -/
def Descriptors.streams (descriptors : Descriptors) : List Nat := descriptors.map (·.2)

/-- The number of the process that starts all others. -/
def firstProcess : Nat := 4710

/-- The files, the streams and the processes of a machine. -/
structure Kernel where
  files : FileSystem
  streams : Array Stream := #[]
  table : Table := [{ number := firstProcess, parent := Table.guardian, group := firstProcess }]
  /-- The number of the running process. -/
  running : Nat := firstProcess
  /-- The number of the last process. -/
  processes : Nat := firstProcess
  /-- How often each named pipe has been opened for reading and for writing. -/
  openings : List (Nat × Nat × Nat) := []
  /-- The time up to which the running process may go on, if others wait for their turns. -/
  turnEnd : Option Nat := none
  /-- How much the running process leaves to others. -/
  niceness : Int := 0
  /-- Why the running tool could not write its output. -/
  failure : Option Refusal := none
  /-- What the running tool has not handed over yet, the last piece first. -/
  unwritten : List (List Char) := []
  unwrittenSize : Nat := 0
  /-- What the next bytes without a pattern are made of. -/
  seed : Nat := 1

/-- How much a pipe holds. -/
def pipeRoom : Nat := 65536

/-- How much is read at once of something endless. -/
def endlessAmount : Nat := 65536

/-- Bytes without a pattern, and what the next ones are made of. -/
def scatter : Nat → Nat → Bytes × Nat
  | 0, seed => ([], seed)
  | count + 1, seed =>
    let seed := (seed * 6364136223846793005 + 1442695040888963407) % Nat.pow 2 64
    let (rest, after) := scatter count seed
    (UInt8.ofNat (seed / Nat.pow 2 33) :: rest, after)

namespace Kernel

/-! ### Time -/

/-- Moves the time to a later moment. -/
def moveTo (kernel : Kernel) (time : Nat) : Kernel :=
  { kernel with files := { kernel.files with now := max kernel.files.now time } }

/-- Lets time pass for work, which takes none as long as nobody else waits. -/
def spend (kernel : Kernel) (time : Nat) : Kernel :=
  if kernel.turnEnd.isSome then kernel.moveTo (kernel.files.now + time) else kernel

/-- Whether others have a right to go on. -/
def isTurnOver (kernel : Kernel) : Bool := kernel.turnEnd.any (· ≤ kernel.files.now)

/-! ### Processes -/

/-- What the running process has for itself. -/
def circumstances (kernel : Kernel) : Circumstances :=
  ⟨kernel.files.workingDirectory, kernel.files.mask, kernel.niceness, kernel.failure,
    kernel.unwritten, kernel.unwrittenSize⟩

/-- The kernel in the circumstances of a process. -/
def inCircumstances (kernel : Kernel) (own : Circumstances) : Kernel :=
  { kernel with
    files := { kernel.files with workingDirectory := own.directory, mask := own.mask }
    niceness := own.niceness, failure := own.failure
    unwritten := own.unwritten, unwrittenSize := own.unwrittenSize }

/-- The entry of the running process. -/
def own? (kernel : Kernel) : Option ProcessEntry := kernel.table.entry? kernel.running

/-- Changes the entry of the running process. -/
def changeOwn (kernel : Kernel) (f : ProcessEntry → ProcessEntry) : Kernel :=
  { kernel with table := kernel.table.change kernel.running f }

/-- Lets another process run. -/
def switchTo (kernel : Kernel) (number : Nat) : Kernel :=
  if number = kernel.running then kernel
  else
    let own := kernel.circumstances
    let kernel := kernel.changeOwn fun entry => { entry with circumstances := own }
    let kernel := { kernel with running := number }
    match kernel.own? with
    | some entry => kernel.inCircumstances entry.circumstances
    | none => kernel

/-- Adds a process that the running one starts and that holds some streams. The result is its
number. -/
def addProcess (kernel : Kernel) (streams : List Nat) : Nat × Kernel :=
  let number := kernel.processes + 1
  let entry : ProcessEntry :=
    { number, streams, parent := kernel.running
      group := (kernel.own?.map (·.group)).getD kernel.running
      ignored := (kernel.own?.map (·.ignored)).getD []
      circumstances := { kernel.circumstances with failure := none, unwritten := [], unwrittenSize := 0 } }
  let alive := kernel.table.takeWhile ProcessEntry.isAlive
  (number,
    { kernel with
      processes := number, table := alive ++ entry :: kernel.table.drop alive.length })

/-- The kernel after the end of a process. -/
def finish (kernel : Kernel) (number : Nat) (ending : Ending) : Kernel :=
  { kernel with table := kernel.table.finish number ending }

/-- Whether a process is there and has not ended. -/
def isAlive (kernel : Kernel) (number : Nat) : Bool :=
  (kernel.table.entry? number).any ProcessEntry.isAlive

/-- Sends a signal to a process, if it is there. -/
def signal? (kernel : Kernel) (number signal : Nat) : Option Kernel :=
  (kernel.table.entry? number).map fun _ =>
    { kernel with table := kernel.table.signal number signal }

/-- Takes the endings of the processes that the running one has started. -/
def reap (kernel : Kernel) : List (Nat × Ending) × Kernel :=
  let (ended, table) := kernel.table.reap kernel.running
  (ended, { kernel with table })

/-- Whether signals wait for the actions of a process. -/
def hasSignals (kernel : Kernel) (number : Nat) : Bool :=
  (kernel.table.entry? number).any fun entry => !entry.pending.isEmpty

/-- Whether a process that another one has started has ended without being looked at. -/
def hasEndings (kernel : Kernel) (number : Nat) : Bool :=
  kernel.table.any fun entry => entry.parent == number && !entry.isAlive

/-- Takes the signals that wait for the running process. -/
def takeSignals (kernel : Kernel) : List Nat × Kernel :=
  match kernel.own? with
  | some entry =>
    if entry.pending.isEmpty then ([], kernel)
    else (entry.pending, kernel.changeOwn fun entry => { entry with pending := [] })
  | none => ([], kernel)

/-- Records the streams that the running process holds open. -/
def hold (kernel : Kernel) (streams : List Nat) : Kernel :=
  kernel.changeOwn fun entry => { entry with streams }

/-! ### Streams -/

/-- Adds a stream; the result is its number. -/
def openStream (kernel : Kernel) (stream : Stream) : Nat × Kernel :=
  (kernel.streams.size, { kernel with streams := kernel.streams.push stream })

/-- Adds a pipe; the results are the streams for its readers and for its writers. -/
def openPipe (kernel : Kernel) : (Nat × Nat) × Kernel :=
  let files := kernel.files
  let node : Node := ⟨.pipe {}, 0o600, files.now⟩
  let number := files.nodes.size
  let kernel := { kernel with files := { files with nodes := files.nodes.push node } }
  let (reader, kernel) := kernel.openStream (.file { number, reads := true })
  let (writer, kernel) := kernel.openStream (.file { number, writes := true })
  ((reader, writer), kernel)

/-- The stream of a number. -/
def stream (kernel : Kernel) (number : Nat) : Stream :=
  (kernel.streams[number]?).getD .null

/-- Replaces the stream of a number. -/
def setStream (kernel : Kernel) (number : Nat) (stream : Stream) : Kernel :=
  { kernel with streams := kernel.streams.setIfInBounds number stream }

/-- The content of the node of an open file. -/
def contentOf (kernel : Kernel) (file : OpenFile) : Option Content :=
  (kernel.files.nodes[file.number]?).map Node.content

/-- The open file and the channel of a stream that is an end of a pipe. -/
def pipe? (kernel : Kernel) (number : Nat) : Option (OpenFile × Channel) :=
  match kernel.stream number with
  | .file file =>
    match kernel.contentOf file with
    | some (.pipe channel) => some (file, channel)
    | _ => none
  | _ => none

/-- Replaces the channel of a pipe. -/
def setChannel (kernel : Kernel) (node : Nat) (channel : Channel) : Kernel :=
  { kernel with
    files := kernel.files.change node fun node => { node with content := .pipe channel } }

/-- Whether a living process holds a stream to the node of a pipe, for writing or for reading. -/
def isHeld (kernel : Kernel) (node : Nat) (writes : Bool) : Bool :=
  kernel.table.any fun entry => entry.isAlive && entry.streams.any fun number =>
    match kernel.stream number with
    | .file file => file.number == node && (if writes then file.writes else file.reads)
    | _ => false

/-- Whether nothing can be read from a pipe as yet. -/
def isDry (kernel : Kernel) (number : Nat) : Bool :=
  match kernel.pipe? number with
  | some (file, channel) =>
    file.reads && channel.size = 0 && kernel.isHeld file.number true
  | none => false

/-- Whether nobody reads a pipe. -/
def isBroken (kernel : Kernel) (number : Nat) : Bool :=
  match kernel.pipe? number with
  | some (file, _) => file.writes && !kernel.isHeld file.number false
  | none => false

/-- How much can be written to a stream at once, if there is a limit. -/
def roomOf (kernel : Kernel) (number : Nat) : Option Nat :=
  (kernel.pipe? number).map fun (_, channel) => pipeRoom - channel.size

/-- Why nothing can be written to a stream. -/
def writeRefusal? (kernel : Kernel) (number : Nat) : Option Refusal :=
  match kernel.stream number with
  | .source _ | .directory => some .badDescriptor
  | .file file => if file.writes then none else some .badDescriptor
  | .device .full => some .noSpace
  | _ => none

/-- Why nothing can be read from a stream. -/
def readRefusal? (kernel : Kernel) (number : Nat) : Option Refusal :=
  match kernel.stream number with
  | .directory => some .isDirectory
  | .file file => if file.reads then none else some .badDescriptor
  | .sink _ => some .badDescriptor
  | _ => none

/-- Writes bytes to a stream, if it takes any. What nobody can read is lost. -/
def write (kernel : Kernel) (number : Nat) (bytes : Bytes) : Kernel :=
  match kernel.stream number with
  | .sink pieces => kernel.setStream number (.sink (bytes :: pieces))
  | .file file =>
    if !file.writes || bytes.isEmpty then kernel
    else
      match kernel.contentOf file with
      | some (.file data) =>
        let position := if file.appends then data.size else file.position
        let kernel := kernel.setStream number
          (.file { file with position := position + bytes.length, ahead := [] })
        { kernel with
          files := kernel.files.changeData file.number fun data => data.write position bytes }
      | some (.pipe channel) =>
        if kernel.isBroken number then kernel
        else kernel.setChannel file.number (channel.push bytes)
      | _ => kernel
  | _ => kernel

/-- Everything that was written to a stream. -/
def written (kernel : Kernel) (number : Nat) : Bytes :=
  match kernel.stream number with
  | .sink pieces => pieces.reverse.flatten
  | _ => []

/-- The open file with what comes after its position, as far as that can be fetched. -/
def fetched (kernel : Kernel) (file : OpenFile) : OpenFile :=
  if !file.reads || !file.ahead.isEmpty then file
  else
    match kernel.contentOf file with
    | some (.file data) => { file with ahead := data.bytes.drop file.position }
    | _ => file

/-- Moves an open file behind bytes that have been read, of which `rest` follows. -/
def advance (kernel : Kernel) (number : Nat) (file : OpenFile) (bytes rest : Bytes) : Kernel :=
  kernel.setStream number (.file { file with position := file.position + bytes.length, ahead := rest })

/-- Reads at most `count` bytes of what is there. -/
def readUpTo (kernel : Kernel) (number count : Nat) : Bytes × Kernel :=
  match kernel.stream number with
  | .source rest => (rest.take count, kernel.setStream number (.source (rest.drop count)))
  | .file file =>
    match kernel.contentOf file with
    | some (.pipe channel) =>
      if !file.reads then ([], kernel)
      else
        let (bytes, channel) := channel.take count
        (bytes, kernel.setChannel file.number channel)
    | _ =>
      let file := kernel.fetched file
      let bytes := file.ahead.take count
      (bytes, kernel.advance number file bytes (file.ahead.drop count))
  | .device .zero | .device .full => (List.replicate count 0, kernel)
  | .device .random =>
    let (bytes, seed) := scatter count kernel.seed
    (bytes, { kernel with seed })
  | _ => ([], kernel)

/-- Whether a stream never comes to its end. -/
def isEndless (kernel : Kernel) (number : Nat) : Bool :=
  match kernel.stream number with
  | .device device => device = .zero || device = .full || device = .random
  | _ => false

/-- Reads what is there of a stream, and a part of one that is endless. -/
def readRest (kernel : Kernel) (number : Nat) : Bytes × Kernel :=
  match kernel.stream number with
  | .source rest => (rest, kernel.setStream number (.source []))
  | .file file =>
    match kernel.contentOf file with
    | some (.pipe channel) =>
      if !file.reads then ([], kernel)
      else (channel.bytes, kernel.setChannel file.number {})
    | _ =>
      let file := kernel.fetched file
      (file.ahead, kernel.advance number file file.ahead [])
  | .device _ => kernel.readUpTo number endlessAmount
  | _ => ([], kernel)

/-- Reads up to a line feed. The result is what stands before it, and whether there is one. -/
def readLine (kernel : Kernel) (number : Nat) : (Bytes × Bool) × Kernel :=
  let split (s : Bytes) : Bytes × Bytes :=
    let line := s.takeWhile (· ≠ 10)
    (line, s.drop line.length)
  match kernel.stream number with
  | .source rest =>
    let (line, tail) := split rest
    ((line, !tail.isEmpty), kernel.setStream number (.source (tail.drop 1)))
  | .file file =>
    match kernel.contentOf file with
    | some (.pipe channel) =>
      if !file.reads then (([], false), kernel)
      else
        let (result, channel) := channel.takeLine
        (result, kernel.setChannel file.number channel)
    | _ =>
      let file := kernel.fetched file
      let (line, tail) := split file.ahead
      ((line, !tail.isEmpty),
        kernel.advance number file (line ++ tail.take 1) (tail.drop 1))
  | _ => (([], false), kernel)

/-- Whether a stream is a file that can be read again. -/
def isFile (kernel : Kernel) (number : Nat) : Bool :=
  match kernel.stream number with
  | .file _ => (kernel.pipe? number).isNone
  | _ => false

/-- Puts bytes that were read too early back in front of a stream. -/
def unread (kernel : Kernel) (number : Nat) (bytes : Bytes) : Kernel :=
  match kernel.stream number with
  | .source rest => kernel.setStream number (.source (bytes ++ rest))
  | .file file =>
    match kernel.contentOf file with
    | some (.pipe channel) =>
      let pushed : Channel :=
        { channel with ahead := bytes ++ channel.ahead, size := bytes.length + channel.size }
      kernel.setChannel file.number pushed
    | _ =>
      kernel.setStream number
        (.file { file with
          position := file.position - bytes.length, ahead := bytes ++ file.ahead })
  | _ => kernel

/-- The node that a stream stands for. -/
def nodeOf (kernel : Kernel) (number : Nat) : Node :=
  match kernel.stream number with
  | .source _ | .sink _ => ⟨.pipe {}, 0o600, kernel.files.now⟩
  | .file file => (kernel.files.nodes[file.number]?).getD (.file 0o644 [])
  | .directory => .directory 0o755
  | .device device => .device device

/-- The node that a path leads to for a process with descriptors; a device for one of them stands
for what the descriptor stands for. -/
def find (kernel : Kernel) (descriptors : Descriptors) (path : String) (through : Bool := true) :
    Except Refusal (Name × Node) :=
  match kernel.files.find path through with
  | .ok (name, node) =>
    match node.content with
    | .device (.descriptor number) =>
      match descriptors.lookup number with
      | some stream => .ok (name, kernel.nodeOf stream)
      | none => .error .notFound
    | _ => .ok (name, node)
  | .error refusal => .error refusal

/-- How something is opened. -/
inductive Access where
  | read
  /-- What is there is kept or not. -/
  | write (keeps : Bool)
  /-- What is written goes behind what is there. -/
  | append
  /-- For reading and writing. -/
  | update
deriving DecidableEq, Repr

/-- A file that is opened in some way. -/
def Access.file (access : Access) (number : Nat) : OpenFile :=
  { number
    reads := access = .read || access = .update
    writes := access ≠ .read
    appends := access = .append }

/-- Whether what is in a file stays there when it is opened in some way. -/
def Access.isKeeping : Access → Bool
  | .write keeps => keeps
  | _ => true

/-- How often a named pipe has been opened for reading or for writing. -/
def openingsOf (kernel : Kernel) (node : Nat) (writes : Bool) : Nat :=
  match kernel.openings.lookup node with
  | some (reading, writing) => if writes then writing else reading
  | none => 0

/-- Counts an opening of a named pipe. -/
def countOpening (kernel : Kernel) (node : Nat) (file : OpenFile) : Kernel :=
  let more (reads : Bool) : Nat := if reads then 1 else 0
  let entry := (node, kernel.openingsOf node false + more file.reads,
    kernel.openingsOf node true + more file.writes)
  { kernel with openings := entry :: kernel.openings.filter (·.1 != node) }

/-- Opens a node by its number. Pipes are held open by the running process. -/
def openNode (kernel : Kernel) (access : Access) (number : Nat) : Nat × Kernel :=
  let file := access.file number
  match kernel.contentOf file with
  | some (.pipe _) =>
    let (stream, kernel) := kernel.openStream (.file file)
    (stream, kernel.changeOwn fun entry => { entry with streams := stream :: entry.streams })
  | _ =>
    let kernel :=
      if access.isKeeping then kernel
      else { kernel with files := kernel.files.changeData number fun _ => {} }
    kernel.openStream (.file file)

/-- Opens a node that a name leads to. What is left in a named pipe that nobody holds is lost, and
somebody else has to open the other end, if nobody has done that. -/
def openNamed (kernel : Kernel) (access : Access) (number : Nat) : Nat × Kernel :=
  match (kernel.files.nodes[number]?).map Node.content with
  | some (.pipe _) =>
    let file := access.file number
    let isRead := kernel.isHeld number false
    let isWritten := kernel.isHeld number true
    let kernel := if isRead || isWritten then kernel else kernel.setChannel number {}
    let isAlone := !(file.reads && file.writes) && !(if file.reads then isWritten else isRead)
    let openings := if isAlone then some (kernel.openingsOf number file.reads) else none
    let (stream, kernel) := (kernel.countOpening number file).openNode access number
    (stream, kernel.setStream stream (.file { file with openings }))
  | _ => kernel.openNode access number

/-- Whether a stream still lacks somebody at the other end. -/
def isAlone (kernel : Kernel) (number : Nat) : Bool :=
  match kernel.stream number with
  | .file file =>
    file.openings.any fun count => kernel.openingsOf file.number file.reads ≤ count
  | _ => false

/-- Opens what a descriptor stands for once more: a file gets a position of its own. -/
def reopen (kernel : Kernel) (access : Access) (descriptors : Descriptors) (descriptor : Nat) :
    Except Refusal (Nat × Kernel) :=
  match descriptors.lookup descriptor with
  | none => .error .notFound
  | some stream =>
    match kernel.stream stream with
    | .file file => .ok (kernel.openNode access file.number)
    | _ => .ok (stream, kernel)

/-- Opens a file for reading. -/
def openForReading (kernel : Kernel) (descriptors : Descriptors) (path : String) :
    Except Refusal (Nat × Kernel) :=
  match kernel.files.find path with
  | .error refusal => .error refusal
  | .ok (name, node) =>
    match node.content, kernel.files.number? name with
    | .directory, _ => .ok (kernel.openStream .directory)
    | .device .terminal, _ => .error .noDevice
    | .device (.descriptor number), _ => kernel.reopen .read descriptors number
    | .device device, _ => .ok (kernel.openStream (.device device))
    | _, some number => .ok (kernel.openNamed .read number)
    | _, none => .error .notFound

/-- Opens a file for writing, which is made if it is missing. -/
def openForWriting (kernel : Kernel) (descriptors : Descriptors) (access : Access)
    (path : String) : Except Refusal (Nat × Kernel) :=
  match kernel.files.create access.isKeeping path with
  | .error refusal => .error refusal
  | .ok (files, number) =>
    let kernel := { kernel with files }
    match (files.nodes[number]?).map Node.content with
    | some (.device .terminal) => .error .noDevice
    | some (.device (.descriptor number)) => kernel.reopen access descriptors number
    | some (.device device) => .ok (kernel.openStream (.device device))
    | _ => .ok (kernel.openNamed access number)

/-- Writes characters to a descriptor, if it is open. -/
def put (kernel : Kernel) (descriptors : Descriptors) (descriptor : Nat) (s : List Char) :
    Kernel :=
  match descriptors.lookup descriptor with
  | some number => kernel.write number (bytesOfRaw s)
  | none => kernel

/-- Why nothing can be written to a descriptor. -/
def putRefusal? (kernel : Kernel) (descriptors : Descriptors) (descriptor : Nat) :
    Option Refusal :=
  match descriptors.lookup descriptor with
  | some number => kernel.writeRefusal? number
  | none => some .badDescriptor

end Kernel

end CheckedBuild.Machine
