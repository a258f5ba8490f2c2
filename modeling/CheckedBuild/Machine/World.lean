import CheckedBuild.Machine.Schedule
import CheckedBuild.Machine.Sources
import CheckedBuild.Program.Basic
import CheckedBuild.Shell.Program
import CheckedBuild.Text.Control

/-!
# A machine as a world

A machine has files, an input and two outputs. It answers the requests of a program: commands are
run to their end on its files, and what they write goes where the request says. A request is
answered as soon as its command has ended and nobody writes to its outputs any more; what else the
command has started goes on while later commands run.
-/

namespace CheckedBuild

namespace Machine

/-- A machine. -/
structure Computer where
  files : FileSystem
  /-- What is left of the driver's standard input. -/
  input : Bytes := []
  /-- What was written to standard output, the last piece first. -/
  printed : List Bytes := []
  /-- What was written to the error stream, the last piece first. -/
  complained : List Bytes := []
  /-- The variables that commands inherit. -/
  bindings : List (String × String) := []
  /-- The search path that commands get. -/
  searchPath : String
  /-- The debug level whose messages go to the error stream, if they go there at all. -/
  logged : Option Nat := none
  /-- Whether control sequences stay in those messages. -/
  keepsControls : Bool := false
  /-- The processes that have been left behind, and the kernel that they run on. -/
  left : Option (Kernel × List Task) := none

namespace Computer

/-- The variables of a command, in the order of their names. -/
def settings (computer : Computer) : List (List Char) :=
  let others := computer.bindings.filter (·.1 != "PATH")
  let sorted := (("PATH", computer.searchPath) :: others).mergeSort fun a b =>
    !decide (rawOf b.1 < rawOf a.1)
  sorted.map fun (name, value) => rawOf name ++ '=' :: rawOf value

/-- The directory that a tilde stands for. -/
def home (computer : Computer) : String :=
  FileSystem.homeDirectory (computer.bindings.lookup "HOME")

/-- A command that has been run. -/
structure Ended where
  ending : Ending
  /-- What is left of its input. -/
  rest : Bytes
  output : Bytes
  errors : Bytes
  /-- The computer with the files and the processes that it has left. -/
  computer : Computer

/-- Runs a launch on an input to its end. -/
def runLaunch (computer : Computer) (launch : Launch) (input : Stream) (merged : Bool) : Ended :=
  let (kernel, tasks) := computer.left.getD ({ files := computer.files }, [])
  let kernel := { kernel with files := computer.files }
  let (source, kernel) := kernel.openStream input
  let (output, kernel) := kernel.openStream (.sink [])
  let (errors, kernel) := kernel.openStream (.sink [])
  let descriptors : Descriptors := [(0, source), (1, output), (2, if merged then output else errors)]
  let (process, kernel) := kernel.addProcess descriptors.streams
  let start : Start := ⟨launch, descriptors, computer.settings⟩
  let isOver (kernel : Kernel) : Bool :=
    !kernel.isAlive process && !kernel.table.any fun entry =>
      entry.isAlive && entry.streams.any fun number => number = output || number = errors
  let (kernel, tasks) :=
    runTasks isOver turnLimit kernel (tasks ++ [⟨process, .turn, Shell.starter start⟩])
  let kernel := kernel.switchTo firstProcess
  let ending := ((kernel.table.entry? process).bind fun (entry : ProcessEntry) => entry.ending)
  { ending := ending.getD (.killed 9)
    rest := match kernel.stream source with
      | .source rest => rest
      | _ => []
    output := kernel.written output
    errors := kernel.written errors
    computer :=
      { computer with
        files := kernel.files
        left := if tasks.isEmpty then none else some (kernel.reap.2, tasks) } }

/-- Runs a command on an input to its end. -/
def spawn (computer : Computer) (command : Command) (input : Stream) (merged : Bool) :
    Except Refusal Ended :=
  let texts := computer.searchPath :: command.program :: command.arguments
  if texts.any fun s => s.toList.contains '\x00' then .error .nulInCommand
  else
    (launch computer.files computer.settings computer.searchPath command.program
      (command.arguments.map rawOf)).map fun launch => computer.runLaunch launch input merged

/-- Runs a command and takes what it writes to both of its outputs. -/
def capture (computer : Computer) (command : Command) (input : Option String) :
    Except String Output × Computer :=
  let source := match input with
    | some text => Stream.source (Utf8.bytesOf text)
    | none => Stream.null
  match computer.spawn command source true with
  | .error refusal => (.error refusal.message, computer)
  | .ok ended => (.ok ⟨Utf8.textOf ended.output, ended.ending.status⟩, ended.computer)

/-- Runs a command on the driver's own streams. -/
def run (computer : Computer) (command : Command) : Except String Int × Computer :=
  match computer.spawn command (.source computer.input) false with
  | .error refusal => (.error refusal.message, computer)
  | .ok ended =>
    (.ok ended.ending.status,
      { ended.computer with
        input := ended.rest
        printed := ended.output :: computer.printed
        complained := ended.errors :: computer.complained })

/-- Writes to the error stream. -/
def complain (computer : Computer) (bytes : Bytes) : Computer :=
  { computer with complained := bytes :: computer.complained }

/-- Writes a message to the error stream if the computer shows messages of its level there. -/
def logMessage (computer : Computer) (level : Level) (message : String) : Computer :=
  let line := Utf8.bytesOf ("dcc: " ++ message ++ "\n")
  match computer.logged with
  | some debug =>
    if level.isShown debug then
      computer.complain (if computer.keepsControls then line else Text.Control.seen line)
    else computer
  | none => computer

/-- The answers of a machine. -/
def world : World Computer where
  answer request computer :=
    match request with
    | .capture command input => computer.capture command input
    | .run command => computer.run command
    | .isDirectory path => (computer.files.isDirectory path, computer)
    | .isFile path => (computer.files.isFile path, computer)
    | .locate searchPath program =>
      (computer.files.locate computer.home searchPath program, computer)
    | .sources => (computer.files.sourceTree, computer)
    | .save path text =>
      match computer.files.write path (Utf8.bytesOf text) with
      | .ok files => (.ok (), { computer with files })
      | .error refusal => (.error refusal.message, computer)
    | .note (.log level message) => ((), computer.logMessage level message)
    | .note (.access _) => ((), computer)
    | .tell text => ((), computer.complain (Utf8.bytesOf text))
    | .print text => ((), { computer with printed := Utf8.bytesOf text :: computer.printed })

/-- Everything written to standard output. -/
def outputBytes (computer : Computer) : Bytes := computer.printed.reverse.flatten

/-- Everything written to the error stream. -/
def errorBytes (computer : Computer) : Bytes := computer.complained.reverse.flatten

end Computer

/-- The names of the installed programs and the tools that they are. -/
def installed : List (String × String) :=
  [("dash", "sh"), ("test", "test"), ("[", "test")]
    ++ (Tools.table.map (·.1) ++ Tools.runners.map (·.1)).map fun name => (name, name)

/-- The directories that every machine has. -/
def usualDirectories : List Name :=
  [["boot"], ["dev"], ["dev", "fd"], ["etc"], ["home"], ["mnt"], ["opt"], ["proc"], ["root"],
   ["run"], ["srv"], ["sys"], ["tmp"], ["usr"], ["usr", "bin"], ["usr", "include"],
   ["usr", "lib"], ["usr", "local"], ["usr", "local", "bin"], ["usr", "local", "lib"],
   ["usr", "sbin"], ["usr", "share"], ["var"], ["var", "tmp"]]

/-- The links that every machine has. -/
def usualLinks : List (Name × String) :=
  [(["bin"], "usr/bin"), (["sbin"], "usr/sbin"), (["lib"], "usr/lib"),
   (["usr", "bin", "sh"], "dash"), (["usr", "bin", "awk"], "mawk")]

/-- The devices that every machine has. -/
def usualDevices : List (Name × Device) :=
  [(["dev", "null"], .null), (["dev", "zero"], .zero), (["dev", "full"], .full),
   (["dev", "random"], .random), (["dev", "urandom"], .random), (["dev", "tty"], .terminal),
   (["dev", "stdin"], .descriptor 0), (["dev", "stdout"], .descriptor 1),
   (["dev", "stderr"], .descriptor 2)]
    ++ (List.range 10).map fun n => (["dev", "fd", toString n], .descriptor n)

/-- The files that every machine has. -/
def usualFiles : List (Name × String) :=
  [(["etc", "passwd"], "root:x:0:0:root:/root:/bin/sh\n"),
   (["etc", "group"], "root:x:0:\n"), (["etc", "hostname"], "localhost\n")]

/-- A file system with directories, devices and the tools, and an empty working directory. -/
def freshFiles (workingDirectory : Name) : FileSystem :=
  let entries :=
    usualDirectories.map (fun name => (name, Node.directory 0o755))
      ++ usualLinks.map (fun (name, target) => (name, Node.link target))
      ++ usualDevices.map (fun (name, device) => (name, Node.device device))
      ++ usualFiles.map (fun (name, text) => (name, Node.file 0o644 (Utf8.bytesOf text)))
      ++ installed.map fun (name, tool) => (["usr", "bin", name], Node.tool tool)
  let files : FileSystem := { nodes := #[], names := [], workingDirectory }
  let files := entries.foldl (fun files (name, node) => files.put name node) files
  let files := files.changeAt ["tmp"] fun node => { node with mode := 0o1777 }
  files.makeDirectories (FileSystem.parents workingDirectory ++ [workingDirectory])

end Machine

end CheckedBuild
