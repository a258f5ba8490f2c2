import CheckedBuild.Text.Utf8

/-!
# Nodes

A node is what a name in a file system stands for: a file with its data, a directory, a symbolic
link, a pipe, a device, or a tool that comes with the system. Every node has permissions and
the time of its last change.
-/

namespace CheckedBuild.Machine

/-- The data of a file: pieces, the last one first, and their length together. -/
structure Data where
  pieces : List Bytes := []
  size : Nat := 0
deriving Repr

namespace Data

/-- The bytes of the data in order. -/
def bytes (data : Data) : Bytes := data.pieces.reverse.flatten

/-- Data of some bytes. -/
def ofBytes (bytes : Bytes) : Data := ⟨[bytes], bytes.length⟩

/-- The data with bytes behind its end. -/
def append (data : Data) (bytes : Bytes) : Data :=
  ⟨bytes :: data.pieces, data.size + bytes.length⟩

/-- The data with bytes written at a position; a gap before it is filled with zeros. -/
def write (data : Data) (position : Nat) (bytes : Bytes) : Data :=
  if position = data.size then data.append bytes
  else
    let old := data.bytes
    ofBytes (old.take position ++ List.replicate (position - old.length) 0 ++ bytes
      ++ old.drop (position + bytes.length))

/-- The data cut off at a size, or filled up to it with zeros. -/
def resize (data : Data) (size : Nat) : Data :=
  let old := data.bytes
  ofBytes (old.take size ++ List.replicate (size - old.length) 0)

theorem bytes_ofBytes (bytes : Bytes) : (ofBytes bytes).bytes = bytes := by
  simp [ofBytes, Data.bytes]

theorem bytes_append (data : Data) (bytes : Bytes) :
    (data.append bytes).bytes = data.bytes ++ bytes := by
  simp [append, Data.bytes]

end Data

/-- The bytes that wait in a pipe: those that come next, the pieces behind them, the last one first,
and how many there are. -/
structure Channel where
  ahead : Bytes := []
  behind : List Bytes := []
  size : Nat := 0
deriving Repr

namespace Channel

/-- All bytes in order. -/
def bytes (channel : Channel) : Bytes := channel.ahead ++ channel.behind.reverse.flatten

/-- The channel of some bytes. -/
def ofBytes (bytes : Bytes) : Channel := ⟨bytes, [], bytes.length⟩

/-- The channel with bytes behind all others. -/
def push (channel : Channel) (bytes : Bytes) : Channel :=
  { channel with behind := bytes :: channel.behind, size := channel.size + bytes.length }

/-- The first bytes, at most so many, and the channel that is left. -/
def take (channel : Channel) (count : Nat) : Bytes × Channel :=
  let first := channel.ahead.take count
  if first.length = count then
    (first, ⟨channel.ahead.drop count, channel.behind, channel.size - count⟩)
  else
    let all := channel.bytes
    (all.take count, ofBytes (all.drop count))

/-- The bytes up to the first line feed, whether there is one, and what is left behind it. -/
def takeLine (channel : Channel) : (Bytes × Bool) × Channel :=
  let found := if channel.ahead.contains 10 then channel else ofBytes channel.bytes
  let line := found.ahead.takeWhile (· ≠ 10)
  let rest := found.ahead.drop line.length
  let length := line.length + min 1 rest.length
  ((line, !rest.isEmpty), ⟨rest.drop 1, found.behind, found.size - length⟩)

theorem bytes_push (channel : Channel) (bytes : Bytes) :
    (channel.push bytes).bytes = channel.bytes ++ bytes := by
  simp [push, Channel.bytes]

theorem bytes_ofBytes (bytes : Bytes) : (ofBytes bytes).bytes = bytes := by
  simp [ofBytes, Channel.bytes]

end Channel

/-- Devices. -/
inductive Device where
  | null
  /-- Endless zero bytes. -/
  | zero
  /-- Endless bytes without a pattern. -/
  | random
  /-- Takes no byte. -/
  | full
  /-- The terminal, which there is none of. -/
  | terminal
  /-- What a descriptor of the process stands for. -/
  | descriptor (number : Nat)
deriving DecidableEq, Repr

/-- What a node is. -/
inductive Content where
  | file (data : Data)
  | directory
  /-- A symbolic link with the path that it stands for. -/
  | link (target : String)
  /-- A pipe with the bytes that wait in it. -/
  | pipe (channel : Channel)
  | device (device : Device)
  /-- A program of the system, known by its name. -/
  | tool (name : String)
deriving Repr

/-- A node with its permissions and the time of its last change, in nanoseconds. -/
structure Node where
  content : Content
  mode : Nat
  changed : Nat := 0
deriving Repr

namespace Node

/-- A file with some bytes. -/
def file (mode : Nat) (bytes : Bytes) : Node := ⟨.file (.ofBytes bytes), mode, 0⟩

/-- A directory. -/
def directory (mode : Nat) : Node := ⟨.directory, mode, 0⟩

/-- A symbolic link. -/
def link (target : String) : Node := ⟨.link target, 0o777, 0⟩

/-- A device. -/
def device (device : Device) : Node := ⟨.device device, 0o666, 0⟩

/-- A program of the system. -/
def tool (name : String) : Node := ⟨.tool name, 0o755, 0⟩

/-- Whether the node is a directory. -/
def isDirectory (node : Node) : Bool :=
  match node.content with
  | .directory => true
  | _ => false

/-- Whether the node is a symbolic link. -/
def isLink (node : Node) : Bool :=
  match node.content with
  | .link _ => true
  | _ => false

/-- Whether the node holds data or is a program. -/
def isRegular (node : Node) : Bool :=
  match node.content with
  | .file _ | .tool _ => true
  | _ => false

/-- Whether the node may be run. -/
def isExecutable (node : Node) : Bool := node.isRegular && node.mode &&& 0o111 != 0

/-- The size that is on record for the node. -/
def size (node : Node) : Nat :=
  match node.content with
  | .file data => data.size
  | .directory => 4096
  | .link target => target.utf8ByteSize
  | .tool _ => 65536
  | .pipe _ | .device _ => 0

/-- The bytes of the node if it is a file. -/
def bytes (node : Node) : Bytes :=
  match node.content with
  | .file data => data.bytes
  | _ => []

/-- The node with other data. -/
def withData (node : Node) (data : Data) : Node := { node with content := .file data }

/-- The letter for the kind of the node. -/
def letter (node : Node) : Char :=
  match node.content with
  | .file _ | .tool _ => '-'
  | .directory => 'd'
  | .link _ => 'l'
  | .pipe _ => 'p'
  | .device _ => 'c'

/-- The kind of the node in words. -/
def kind (node : Node) : String :=
  match node.content with
  | .file data => if data.size = 0 then "regular empty file" else "regular file"
  | .tool _ => "regular file"
  | .directory => "directory"
  | .link _ => "symbolic link"
  | .pipe _ => "fifo"
  | .device _ => "character special file"

end Node

end CheckedBuild.Machine
