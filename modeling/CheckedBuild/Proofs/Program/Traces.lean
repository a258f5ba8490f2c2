import CheckedBuild.Program.Views

/-!
# Traces of a program

A trace is what a program exchanges with surroundings that may answer anything, together with the
result it then has. Every execution is a trace, so what holds of all traces holds in every world
and from every state. Traces of a sequence of programs are traces of its parts put together, which
is all that is needed to read off what a program can do.
-/

namespace CheckedBuild

namespace Program

variable {σ α β : Type}

/-- The program exchanges these requests and answers, and ends with this result. -/
inductive Yields : Program α → List Exchange → α → Prop
  | done (result : α) : Yields (.done result) [] result
  | ask {request : Request} {resume : request.Answer → Program α} (answer : request.Answer)
      {exchanges : List Exchange} {result : α} (rest : Yields (resume answer) exchanges result) :
      Yields (.ask request resume) (⟨request, answer⟩ :: exchanges) result

/-- Every execution is a trace. -/
theorem yields_execute (world : World σ) (state : σ) (program : Program α) :
    Yields program (program.execute world state).exchanges (program.execute world state).result := by
  induction program generalizing state with
  | done result => exact .done result
  | ask request resume ih => exact .ask _ (ih _ _)

/-- Programs in sequence are executed one after the other. -/
theorem execute_bind (world : World σ) (state : σ) (program : Program α) (next : α → Program β) :
    (program >>= next).execute world state =
      let first := program.execute world state
      let second := (next first.result).execute world first.state
      { second with exchanges := first.exchanges ++ second.exchanges } := by
  induction program generalizing state with
  | done result => rfl
  | ask request resume ih =>
    change (Program.ask request fun answer => resume answer >>= next).execute world state = _
    simp only [execute, ih]
    rfl

/-- In an execution every answer is one that the world gives in some state. -/
theorem answered_of_mem_execute {world : World σ} {state : σ} {program : Program α}
    {exchange : Exchange} (member : exchange ∈ (program.execute world state).exchanges) :
    ∃ before, exchange.answer = (world.answer exchange.request before).1 := by
  induction program generalizing state with
  | done result => cases member
  | ask request resume ih =>
    rcases List.mem_cons.mp member with rfl | later
    · exact ⟨state, rfl⟩
    · exact ih _ later

/-- Whatever is answered, the program makes no such request. -/
inductive Avoids (unwanted : Request → Bool) : Program α → Prop
  | done (result : α) : Avoids unwanted (.done result)
  | ask {request : Request} {resume : request.Answer → Program α}
      (other : unwanted request = false) (rest : ∀ answer, Avoids unwanted (resume answer)) :
      Avoids unwanted (.ask request resume)

namespace Avoids

variable {unwanted : Request → Bool}

theorem pure (value : α) : Avoids unwanted (Pure.pure value : Program α) := .done value

theorem request {request : Request} (other : unwanted request = false) :
    Avoids unwanted (Program.request request) :=
  .ask other fun answer => .done answer

theorem mono {unwanted' : Request → Bool} {program : Program α} (avoids : Avoids unwanted program)
    (fewer : ∀ request, unwanted request = false → unwanted' request = false) :
    Avoids unwanted' program := by
  induction avoids with
  | done result => exact .done result
  | ask other _ ih => exact .ask (fewer _ other) ih

theorem bind {program : Program α} {next : α → Program β} (first : Avoids unwanted program)
    (second : ∀ value, Avoids unwanted (next value)) : Avoids unwanted (program >>= next) := by
  induction first with
  | done result => exact second result
  | ask other _ ih => exact .ask other ih

end Avoids

/-- A program has no choices of its own: the answers decide its result. -/
theorem Yields.unique {program : Program α} {exchanges : List Exchange} {first second : α}
    (one : Yields program exchanges first) (other : Yields program exchanges second) :
    first = second := by
  induction one with
  | done result => cases other; rfl
  | ask answer _ ih =>
    cases other with
    | ask _ rest => exact ih rest

theorem yields_pure {value : α} {exchanges : List Exchange} {result : α} :
    Yields (pure value) exchanges result ↔ exchanges = [] ∧ result = value := by
  constructor
  · intro h
    cases h
    exact ⟨rfl, rfl⟩
  · rintro ⟨rfl, rfl⟩
    exact .done result

/-- A trace of two programs in sequence is one of the first and then one of the second. -/
theorem yields_bind {program : Program α} {next : α → Program β} {exchanges : List Exchange}
    {result : β} :
    Yields (program >>= next) exchanges result ↔
      ∃ first value second, exchanges = first ++ second ∧ Yields program first value
        ∧ Yields (next value) second result := by
  constructor
  · intro h
    induction program generalizing exchanges with
    | done value => exact ⟨[], value, exchanges, rfl, .done value, h⟩
    | ask request resume ih =>
      cases h with
      | ask answer rest =>
        obtain ⟨first, value, second, rfl, one, other⟩ := ih answer rest
        exact ⟨⟨request, answer⟩ :: first, value, second, rfl, .ask answer one, other⟩
  · rintro ⟨first, value, second, rfl, one, other⟩
    induction one with
    | done value => exact other
    | ask answer _ ih => exact .ask answer (ih other)

theorem yields_request {request : Request} {exchanges : List Exchange} {answer : request.Answer} :
    Yields (Program.request request) exchanges answer ↔ exchanges = [⟨request, answer⟩] := by
  constructor
  · intro h
    cases h with
    | ask answer rest => cases rest; rfl
  · rintro rfl
    exact .ask answer (.done answer)

theorem yields_capture {command : Command} {input : Option String} {exchanges : List Exchange}
    {outcome : Except String Output} :
    Yields (capture command input) exchanges outcome ↔
      exchanges = [⟨.capture command input, outcome⟩] :=
  yields_request

theorem yields_run {command : Command} {exchanges : List Exchange}
    {outcome : Except String Int} :
    Yields (run command) exchanges outcome ↔ exchanges = [⟨.run command, outcome⟩] :=
  yields_request

theorem yields_tell {text : String} {exchanges : List Exchange} {result : Unit} :
    Yields (tell text) exchanges result ↔ exchanges = [⟨.tell text, result⟩] :=
  yields_request

theorem yields_sources {exchanges : List Exchange} {tree : SourceTree} :
    Yields sources exchanges tree ↔ exchanges = [⟨.sources, tree⟩] :=
  yields_request

end Program

/-- A command that was run and what came of it: its output where that was taken, else its
status. -/
inductive Run where
  | captured (command : Command) (input : Option String) (outcome : Except String Output)
  | inherited (command : Command) (outcome : Except String Int)

/-- The command that an exchange ran. -/
def Exchange.run? : Exchange → Option Run
  | ⟨.capture command input, outcome⟩ => some (.captured command input outcome)
  | ⟨.run command, outcome⟩ => some (.inherited command outcome)
  | _ => none

/-- The commands that were run, in order. -/
def runsIn (exchanges : List Exchange) : List Run := exchanges.filterMap Exchange.run?

/-- Everything that was shown to the user. -/
def shownIn (exchanges : List Exchange) : String :=
  String.join ((exchanges.map (·.request)).filterMap Request.shown?)

namespace Execution

variable {σ α : Type}

/-- The commands that were run, in order and with what came of them. -/
def runs (execution : Execution σ α) : List Run := runsIn execution.exchanges

end Execution

@[simp] theorem runsIn_append (first second : List Exchange) :
    runsIn (first ++ second) = runsIn first ++ runsIn second :=
  List.filterMap_append

@[simp] theorem shownIn_append (first second : List Exchange) :
    shownIn (first ++ second) = shownIn first ++ shownIn second := by
  simp [shownIn, String.join_append]

@[simp] theorem runsIn_nil : runsIn [] = [] := rfl

@[simp] theorem shownIn_nil : shownIn [] = "" := rfl

@[simp] theorem runsIn_capture (command : Command) (input : Option String)
    (outcome : Except String Output) (rest : List Exchange) :
    runsIn (⟨.capture command input, outcome⟩ :: rest)
      = .captured command input outcome :: runsIn rest := rfl

@[simp] theorem shownIn_capture (command : Command) (input : Option String)
    (outcome : Except String Output) (rest : List Exchange) :
    shownIn (⟨.capture command input, outcome⟩ :: rest) = shownIn rest := rfl

@[simp] theorem runsIn_run (command : Command) (outcome : Except String Int)
    (rest : List Exchange) :
    runsIn (⟨.run command, outcome⟩ :: rest) = .inherited command outcome :: runsIn rest := rfl

@[simp] theorem shownIn_run (command : Command) (outcome : Except String Int)
    (rest : List Exchange) :
    shownIn (⟨.run command, outcome⟩ :: rest) = shownIn rest := rfl

@[simp] theorem runsIn_tell (text : String) (told : Unit) (rest : List Exchange) :
    runsIn (⟨.tell text, told⟩ :: rest) = runsIn rest := rfl

@[simp] theorem shownIn_tell (text : String) (told : Unit) (rest : List Exchange) :
    shownIn (⟨.tell text, told⟩ :: rest) = text ++ shownIn rest :=
  String.join_cons

/-- Neither was a command run nor anything shown. -/
structure Quiet (exchanges : List Exchange) : Prop where
  runs : runsIn exchanges = []
  shown : shownIn exchanges = ""

attribute [simp] Quiet.runs Quiet.shown

theorem Quiet.nil : Quiet [] := ⟨rfl, rfl⟩

theorem Quiet.append {first second : List Exchange} (one : Quiet first) (other : Quiet second) :
    Quiet (first ++ second) :=
  ⟨by rw [runsIn_append, one.runs, other.runs]; rfl,
    by rw [shownIn_append, one.shown, other.shown]; rfl⟩

namespace Program

theorem quiet_of_log {level : Level} {message : String} {exchanges : List Exchange} {result : Unit}
    (h : Yields (log level message) exchanges result) : Quiet exchanges := by
  obtain rfl : exchanges = [⟨.note (.log level message), result⟩] := yields_request.mp h
  exact ⟨rfl, rfl⟩

theorem quiet_of_record {notes : List Note} {exchanges : List Exchange} {result : Unit}
    (h : Yields (record notes) exchanges result) : Quiet exchanges := by
  induction notes generalizing exchanges with
  | nil =>
    cases h
    exact .nil
  | cons note rest ih =>
    cases h with
    | ask answer tail => exact ⟨(ih tail).runs, (ih tail).shown⟩

/-- A step that may be left out and goes unnoticed. -/
theorem exists_of_optional {α : Type} {wanted : Prop} [Decidable wanted] {step : Program Unit}
    {next : Program α} {exchanges : List Exchange} {result : α}
    (unnoticed : ∀ {first : List Exchange} {done : Unit}, Yields step first done → Quiet first)
    (h : Yields (if wanted then step >>= fun _ => next else next) exchanges result) :
    ∃ first second, exchanges = first ++ second ∧ Quiet first ∧ Yields next second result := by
  by_cases taken : wanted
  · rw [if_pos taken] at h
    obtain ⟨first, _, second, rfl, one, other⟩ := yields_bind.mp h
    exact ⟨first, second, rfl, unnoticed one, other⟩
  · rw [if_neg taken] at h
    exact ⟨[], exchanges, rfl, .nil, h⟩

theorem quiet_of_save {path text : String} {exchanges : List Exchange}
    {result : Except String Unit} (h : Yields (save path text) exchanges result) :
    Quiet exchanges := by
  obtain rfl : exchanges = [⟨.save path text, result⟩] := yields_request.mp h
  exact ⟨rfl, rfl⟩

theorem quiet_of_isDirectory {path : String} {exchanges : List Exchange} {result : Bool}
    (h : Yields (isDirectory path) exchanges result) : Quiet exchanges := by
  obtain rfl : exchanges = [⟨.isDirectory path, result⟩] := yields_request.mp h
  exact ⟨rfl, rfl⟩

end Program

/-- Surroundings for examples: a source tree and no other files. Commands are answered in order, and
without a word when there are no answers left. -/
def answering (tree : SourceTree) : World (List (Except String Output)) where
  answer request answers :=
    match request with
    | .capture .. => (answers.headD (.ok ⟨"", 0⟩), answers.tail)
    | .run _ => ((answers.headD (.ok ⟨"", 0⟩)).map (·.status), answers.tail)
    | .isDirectory _ => (false, answers)
    | .isFile _ => (false, answers)
    | .locate .. => (none, answers)
    | .sources => (tree, answers)
    | .save .. => (.ok (), answers)
    | .note _ => ((), answers)
    | .tell _ => ((), answers)
    | .print _ => ((), answers)

end CheckedBuild
