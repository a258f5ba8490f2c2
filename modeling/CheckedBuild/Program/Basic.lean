import CheckedBuild.Embedding.SourceTree

/-!
# Programs that make requests

What the driver does to its surroundings is a request, and a program is a tree: it is done, or it
makes a request and goes on with the answer. A world answers requests. Executing a program in a
world gives its result together with the exchange of requests and answers, so a law about all
surroundings is a statement about all worlds.

A command is a program of the surroundings with its arguments. A finished one leaves the text it
wrote, both output streams merged, and an exit status; a signal counts as status 128 and more, as in
a shell.
-/

namespace CheckedBuild

/-- A program and its arguments, in order. -/
structure Command where
  program : String
  arguments : List String := []
deriving DecidableEq, Repr

namespace Command

/-- The command with more arguments at its end. -/
def append (command : Command) (arguments : List String) : Command :=
  { command with arguments := command.arguments ++ arguments }

/-- The command without any argument that is one of `unwanted`. -/
def without (command : Command) (unwanted : List String) : Command :=
  { command with arguments := command.arguments.filter fun argument => !unwanted.contains argument }

/-- Whether some argument is `argument`. -/
def has (command : Command) (argument : String) : Bool := command.arguments.contains argument

/-- The command as one line, its parts separated by single spaces. -/
def line (command : Command) : String :=
  " ".intercalate (command.program :: command.arguments)

end Command

/-- What a finished command leaves behind. -/
structure Output where
  text : String
  status : Int
deriving DecidableEq, Repr

/-- Whether the command succeeded. -/
def Output.succeeded (output : Output) : Bool := output.status == 0

/-- What a program asks of its surroundings. -/
inductive Request where
  /-- Run a command to its end and take what it writes. Without an input it reads nothing. -/
  | capture (command : Command) (input : Option String)
  /-- Run a command to its end on the driver's own streams. -/
  | run (command : Command)
  | isDirectory (path : String)
  | isFile (path : String)
  /-- Look a program up in a search path. -/
  | locate (searchPath program : String)
  /-- The files that may be embedded, as they are now. -/
  | sources
  /-- Write a file. -/
  | save (path text : String)
  | note (note : Note)
  /-- Show messages of a compiler to the user. -/
  | tell (text : String)
  /-- Write to standard output. -/
  | print (text : String)
deriving DecidableEq

/-- The answers to a request. An error is the reason, in words, why it could not be met. -/
def Request.Answer : Request → Type
  | capture .. => Except String Output
  | run .. => Except String Int
  | isDirectory .. => Bool
  | isFile .. => Bool
  | locate .. => Option String
  | sources => SourceTree
  | save .. => Except String Unit
  | note .. => Unit
  | tell .. => Unit
  | print .. => Unit

/-- A program with a result of type `α`. -/
inductive Program (α : Type) where
  | done (result : α)
  | ask (request : Request) (resume : request.Answer → Program α)

namespace Program

variable {α β : Type}

/-- Goes on with the result of a program. -/
def bind (program : Program α) (next : α → Program β) : Program β :=
  match program with
  | done result => next result
  | ask request resume => ask request fun answer => (resume answer).bind next

instance : Monad Program where
  pure := done
  bind := bind

/-- Makes one request. -/
def request (request : Request) : Program request.Answer := ask request done

/-- Runs a command and takes what it writes. -/
def capture (command : Command) (input : Option String) : Program (Except String Output) :=
  request (.capture command input)

/-- Runs a command on the driver's own streams; the result is its status. -/
def run (command : Command) : Program (Except String Int) := request (.run command)

/-- Whether a path leads to a directory. -/
def isDirectory (path : String) : Program Bool := request (.isDirectory path)

/-- Whether a path leads to a file. -/
def isFile (path : String) : Program Bool := request (.isFile path)

/-- Looks a program up in a search path. -/
def locate (searchPath program : String) : Program (Option String) :=
  request (.locate searchPath program)

/-- The files that may be embedded. -/
def sources : Program SourceTree := request .sources

/-- Writes a file. -/
def save (path text : String) : Program (Except String Unit) := request (.save path text)

/-- Puts a message into the log. -/
def log (level : Level) (message : String) : Program Unit :=
  request (.note (.log level message))

/-- Shows a text to the user. -/
def tell (text : String) : Program Unit := request (.tell text)

/-- Writes to standard output. -/
def print (text : String) : Program Unit := request (.print text)

/-- Puts notes on record in order. -/
def record : List Note → Program Unit
  | [] => done ()
  | note :: rest => ask (.note note) fun _ => record rest

end Program

/-- A request with its answer. -/
structure Exchange where
  request : Request
  answer : request.Answer

/-- Surroundings with a state: what they answer to a request, and how they change. -/
structure World (σ : Type) where
  answer : (request : Request) → σ → request.Answer × σ

/-- The result of a program, what was exchanged on the way, and the state left behind. -/
structure Execution (σ α : Type) where
  result : α
  exchanges : List Exchange
  state : σ

/-- Executes a program in a world. -/
def Program.execute {σ α : Type} (world : World σ) (state : σ) : Program α → Execution σ α
  | done result => ⟨result, [], state⟩
  | ask request resume =>
    let (answer, next) := world.answer request state
    let rest := (resume answer).execute world next
    { rest with exchanges := ⟨request, answer⟩ :: rest.exchanges }

end CheckedBuild
