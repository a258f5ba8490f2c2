import Mathlib.Data.List.Basic
import CheckedBuild.Proofs.Program.Traces

/-!
# Two runs that are answered alike

Commands are answered from a script if what comes of them is decided by their turn, whatever the
commands are; everything else is answered alike if one question has one answer. As long as two
programs go through the same steps they cannot be told apart by such answers, so their exchanges are
the same; where their commands differ, what comes of them still does not.

Programs may also leave something behind on their way, lines in the log or files, that nobody looks
at. Then neither what is left nor whether it could be left makes a difference to the other steps.
-/

namespace CheckedBuild

open Program

/-- The command as it was called. -/
def Run.call : Run → Call
  | .captured command input _ => ⟨command, true, input⟩
  | .inherited command _ => ⟨command, false, none⟩

theorem calls_eq_map {σ α : Type} (execution : Execution σ α) :
    execution.calls = execution.runs.map Run.call := by
  unfold Execution.calls Execution.requests Execution.runs runsIn
  rw [List.filterMap_map, List.map_filterMap]
  refine List.filterMap_congr fun exchange _ => ?_
  obtain ⟨request, answer⟩ := exchange
  cases request <;> rfl

/-- What came of the commands stands in the script, in turn. Of an answer to a command whose output
is not taken only the status is left. -/
inductive Scripted : List (Except String Output) → List Run → Prop
  | nil (script : List (Except String Output)) : Scripted script []
  | captured {command : Command} {input : Option String} {answer : Except String Output}
      {script : List (Except String Output)} {runs : List Run} (later : Scripted script runs) :
      Scripted (answer :: script) (.captured command input answer :: runs)
  | inherited {command : Command} {answer : Except String Output}
      {script : List (Except String Output)} {runs : List Run} (later : Scripted script runs) :
      Scripted (answer :: script) (.inherited command (answer.map (·.status)) :: runs)

namespace Scripted

variable {script : List (Except String Output)} {first second : List Run}

theorem extend (scripted : Scripted script first) (more : List (Except String Output)) :
    Scripted (script ++ more) first := by
  induction scripted with
  | nil script => exact .nil _
  | captured _ ih => exact .captured ih
  | inherited _ ih => exact .inherited ih

theorem of_append (scripted : Scripted script (first ++ second)) : Scripted script first := by
  induction first generalizing script with
  | nil => exact .nil script
  | cons run rest ih =>
    cases scripted with
    | captured later => exact .captured (ih later)
    | inherited later => exact .inherited (ih later)

theorem drop (first : List Run) (scripted : Scripted script (first ++ second)) :
    Scripted (script.drop first.length) second := by
  induction first generalizing script with
  | nil => exact scripted
  | cons run rest ih =>
    cases scripted with
    | captured later => exact ih later
    | inherited later => exact ih later

/-- The same comes of two commands that are run in the same turn. -/
theorem outcome_eq {command command' : Command} {input input' : Option String}
    {outcome outcome' : Except String Output}
    (one : Scripted script (.captured command input outcome :: first))
    (other : Scripted script (.captured command' input' outcome' :: second)) :
    outcome = outcome' := by
  cases one
  cases other
  rfl

theorem status_eq {command command' : Command} {outcome outcome' : Except String Int}
    (one : Scripted script (.inherited command outcome :: first))
    (other : Scripted script (.inherited command' outcome' :: second)) : outcome = outcome' := by
  cases one
  cases other
  rfl

end Scripted

/-- Whatever was asked in both exchanges, other than to run a command, was answered alike. -/
def SameSurroundings (one other : List Exchange) : Prop :=
  ∀ request : Request, request.call? = none → ∀ answer answer',
    ⟨request, answer⟩ ∈ one → ⟨request, answer'⟩ ∈ other → answer = answer'

/-- Two exchanges in the same surroundings, whose commands were answered from one script. -/
structure Alike (one other : List Exchange) : Prop where
  commands : ∃ script, Scripted script (runsIn one) ∧ Scripted script (runsIn other)
  others : SameSurroundings one other

theorem SameSurroundings.mono {one other first second : List Exchange}
    (same : SameSurroundings one other) (within : first ⊆ one) (within' : second ⊆ other) :
    SameSurroundings first second :=
  fun request uncalled answer answer' here there =>
    same request uncalled answer answer' (within here) (within' there)

namespace Alike

variable {one other first second : List Exchange}

theorem of_append (alike : Alike (one ++ first) (other ++ second)) : Alike one other where
  commands := by
    obtain ⟨script, scripted, scripted'⟩ := alike.commands
    rw [runsIn_append] at scripted scripted'
    exact ⟨script, scripted.of_append, scripted'.of_append⟩
  others := alike.others.mono (List.subset_append_left _ _) (List.subset_append_left _ _)

/-- What follows parts in which as many commands were run. -/
theorem append_right (alike : Alike (one ++ first) (other ++ second))
    (same : (runsIn one).length = (runsIn other).length) : Alike first second where
  commands := by
    obtain ⟨script, scripted, scripted'⟩ := alike.commands
    rw [runsIn_append] at scripted scripted'
    exact ⟨_, scripted.drop _, same ▸ scripted'.drop _⟩
  others := alike.others.mono (List.subset_append_right _ _) (List.subset_append_right _ _)

/-- What follows parts in which no command was run. -/
theorem of_quiet (quiet : Quiet one) (quiet' : Quiet other)
    (alike : Alike (one ++ first) (other ++ second)) : Alike first second :=
  alike.append_right (by rw [quiet.runs, quiet'.runs])

end Alike

namespace Program

variable {α β : Type} {exchanges exchanges' : List Exchange}

/-- A program that is answered alike twice goes the same way twice. -/
theorem Yields.unique_of_alike {program : Program α} {result result' : α}
    (one : Yields program exchanges result) (other : Yields program exchanges' result')
    (alike : Alike exchanges exchanges') : exchanges = exchanges' ∧ result = result' := by
  induction one generalizing exchanges' with
  | done result =>
    cases other
    exact ⟨rfl, rfl⟩
  | @ask request resume answer rest result rests ih =>
    cases other with
    | @ask _ _ answer' rest' _ rests' =>
      have same : answer = answer' := by
        obtain ⟨script, scripted, scripted'⟩ := alike.commands
        cases request with
        | capture command input => exact scripted.outcome_eq scripted'
        | run command => exact scripted.status_eq scripted'
        | _ => exact alike.others _ rfl _ _ List.mem_cons_self List.mem_cons_self
      subst same
      have split : Alike ([⟨request, answer⟩] ++ rest) ([⟨request, answer⟩] ++ rest') := alike
      obtain ⟨rfl, rfl⟩ := ih rests' (split.append_right rfl)
      exact ⟨rfl, rfl⟩

/-- Two programs that begin with the same one go through it alike. -/
theorem exists_shared_of_alike {program : Program α} {next next' : α → Program β}
    {result result' : β} (one : Yields (program >>= next) exchanges result)
    (other : Yields (program >>= next') exchanges' result') (alike : Alike exchanges exchanges') :
    ∃ first value rest rest', exchanges = first ++ rest ∧ exchanges' = first ++ rest'
      ∧ Yields program first value ∧ Yields (next value) rest result
      ∧ Yields (next' value) rest' result' ∧ Alike rest rest' := by
  obtain ⟨first, value, rest, rfl, begins, ends⟩ := yields_bind.mp one
  obtain ⟨first', value', rest', rfl, begins', ends'⟩ := yields_bind.mp other
  obtain ⟨rfl, rfl⟩ := begins.unique_of_alike begins' alike.of_append
  exact ⟨first, value, rest, rest', rfl, rfl, begins, ends, ends', alike.append_right rfl⟩

/-- The same comes of two commands that are run at the same place. -/
theorem exists_outcome_of_alike {command command' : Command} {input input' : Option String}
    {next next' : Except String Output → Program β} {result result' : β}
    (one : Yields (capture command input >>= next) exchanges result)
    (other : Yields (capture command' input' >>= next') exchanges' result')
    (alike : Alike exchanges exchanges') :
    ∃ outcome rest rest', runsIn exchanges = .captured command input outcome :: runsIn rest
      ∧ runsIn exchanges' = .captured command' input' outcome :: runsIn rest'
      ∧ Yields (next outcome) rest result ∧ Yields (next' outcome) rest' result'
      ∧ Alike rest rest' := by
  obtain ⟨_, outcome, rest, rfl, captured, ends⟩ := yields_bind.mp one
  obtain ⟨_, outcome', rest', rfl, captured', ends'⟩ := yields_bind.mp other
  obtain rfl := yields_capture.mp captured
  obtain rfl := yields_capture.mp captured'
  obtain ⟨script, scripted, scripted'⟩ := alike.commands
  obtain rfl := scripted.outcome_eq scripted'
  exact ⟨outcome, rest, rest', rfl, rfl, ends, ends', alike.append_right rfl⟩

/-- Steps in which no command is run may differ. -/
theorem exists_rest_of_quiet {step step' : Program α} {next next' : α → Program β}
    {result result' : β}
    (unnoticed : ∀ {first : List Exchange} {value : α}, Yields step first value → Quiet first)
    (unnoticed' : ∀ {first : List Exchange} {value : α}, Yields step' first value → Quiet first)
    (one : Yields (step >>= next) exchanges result)
    (other : Yields (step' >>= next') exchanges' result') (alike : Alike exchanges exchanges') :
    ∃ value value' rest rest', runsIn exchanges = runsIn rest ∧ runsIn exchanges' = runsIn rest'
      ∧ Yields (next value) rest result ∧ Yields (next' value') rest' result'
      ∧ Alike rest rest' := by
  obtain ⟨first, value, rest, rfl, begins, ends⟩ := yields_bind.mp one
  obtain ⟨first', value', rest', rfl, begins', ends'⟩ := yields_bind.mp other
  have quiet := unnoticed begins
  have quiet' := unnoticed' begins'
  refine ⟨value, value', rest, rest', ?_, ?_, ends, ends', alike.of_quiet quiet quiet'⟩
  · simp [quiet]
  · simp [quiet']

end Program

/-! ## What is left behind -/

/-- The request leaves something behind: a line in the log, or a file. -/
def Request.leaves : Request → Bool
  | .note (.log ..) => true
  | .save .. => true
  | _ => false

/-- The request leaves a file behind. -/
def Request.saves : Request → Bool
  | .save .. => true
  | _ => false

/-- The exchanges in which nothing was left behind, in order. -/
def othersIn (exchanges : List Exchange) : List Exchange :=
  exchanges.filter fun exchange => !exchange.request.leaves

/-- Worlds that answer alike from related states on, apart from what is left behind in each. -/
structure Indistinct {σ τ : Type} (related : σ → τ → Prop) (world : World σ) (other : World τ) :
    Prop where
  both : ∀ {request state state'}, request.leaves = false → related state state' →
    (world.answer request state).1 = (other.answer request state').1
      ∧ related (world.answer request state).2 (other.answer request state').2
  left : ∀ {request state state'}, request.leaves = true → related state state' →
    related (world.answer request state).2 state'
  right : ∀ {request state state'}, request.leaves = true → related state state' →
    related state (other.answer request state').2

namespace Program

/-- The programs go through the same steps, apart from what each leaves behind on its way. -/
inductive Abreast {α : Type} : Program α → Program α → Prop
  | done (result : α) : Abreast (.done result) (.done result)
  | both {request : Request} {resume resume' : request.Answer → Program α}
      (other : request.leaves = false) (rests : ∀ answer, Abreast (resume answer) (resume' answer)) :
      Abreast (.ask request resume) (.ask request resume')
  | left {request : Request} {resume : request.Answer → Program α} {program' : Program α}
      (leaves : request.leaves = true) (rests : ∀ answer, Abreast (resume answer) program') :
      Abreast (.ask request resume) program'
  | right {request : Request} {program : Program α} {resume' : request.Answer → Program α}
      (leaves : request.leaves = true) (rests : ∀ answer, Abreast program (resume' answer)) :
      Abreast program (.ask request resume')

/-- The program does nothing but leave something behind. -/
abbrev Leaving {α : Type} (program : Program α) : Prop :=
  Avoids (fun request => !request.leaves) program

namespace Abreast

variable {α β : Type} {program program' : Program α}

theorem symm (abreast : Abreast program program') : Abreast program' program := by
  induction abreast with
  | done result => exact .done result
  | both other _ ih => exact .both other ih
  | left leaves _ ih => exact .right leaves ih
  | right leaves _ ih => exact .left leaves ih

theorem bind {next next' : α → Program β} (first : Abreast program program')
    (second : ∀ value, Abreast (next value) (next' value)) :
    Abreast (program >>= next) (program' >>= next') := by
  induction first with
  | done result => exact second result
  | both other _ ih => exact .both other ih
  | left leaves _ ih => exact .left leaves ih
  | right leaves _ ih => exact .right leaves ih

/-- Where no file is saved, a program keeps abreast of itself: the log does not answer. -/
theorem refl_of_avoids (unsaved : Avoids Request.saves program) : Abreast program program := by
  induction unsaved with
  | done result => exact .done result
  | @ask request _ other _ ih =>
    match request with
    | .note (.log ..) => exact .left rfl fun _ => .right rfl fun _ => ih ()
    | .save .. => cases other
    | .note (.access _) | .capture .. | .run _ | .isDirectory _ | .isFile _ | .locate ..
    | .sources | .tell _ | .print _ => exact .both rfl ih

theorem leaving_left {step : Program β} {next : β → Program α} (leaving : Leaving step)
    (abreast : ∀ value, Abreast (next value) program') : Abreast (step >>= next) program' := by
  induction leaving with
  | done result => exact abreast result
  | ask other _ ih => exact .left (by simpa using other) ih

theorem optional_left {wanted : Prop} [Decidable wanted] {step : Program Unit}
    (leaving : Leaving step) (abreast : Abreast program program') :
    Abreast (if wanted then step >>= fun _ => program else program) program' := by
  split
  · exact leaving_left leaving fun _ => abreast
  · exact abreast

/-- Each may go through a step of its own first in which it leaves something behind. -/
theorem optional {wanted wanted' : Prop} [Decidable wanted] [Decidable wanted']
    {step step' : Program Unit} (leaving : Leaving step) (leaving' : Leaving step')
    (abreast : Abreast program program') :
    Abreast (if wanted then step >>= fun _ => program else program)
      (if wanted' then step' >>= fun _ => program' else program') :=
  (optional_left leaving' (optional_left leaving abreast).symm).symm

/-- In worlds that are told apart by nothing but what is left behind in them, such programs have the
same result and exchange the same, apart from what they leave. -/
theorem execute {σ τ : Type} {related : σ → τ → Prop} {world : World σ} {other : World τ}
    (indistinct : Indistinct related world other) (abreast : Abreast program program')
    {state : σ} {state' : τ} (start : related state state') :
    (program.execute world state).result = (program'.execute other state').result
      ∧ othersIn (program.execute world state).exchanges
        = othersIn (program'.execute other state').exchanges
      ∧ related (program.execute world state).state (program'.execute other state').state := by
  induction abreast generalizing state state' with
  | done result => exact ⟨rfl, rfl, start⟩
  | @both request resume resume' noticed rests ih =>
    obtain ⟨same, next⟩ := indistinct.both noticed start
    obtain ⟨result, exchanges, ends⟩ := ih (world.answer request state).1 next
    simp only [Program.execute, ← same]
    refine ⟨result, ?_, ends⟩
    simp only [othersIn, List.filter_cons, noticed, Bool.not_false, if_true] at exchanges ⊢
    rw [exchanges]
  | @left request resume program' leaves rests ih =>
    obtain ⟨result, exchanges, ends⟩ :=
      ih (world.answer request state).1 (indistinct.left leaves start)
    refine ⟨result, ?_, ends⟩
    rw [← exchanges]
    simp [Program.execute, othersIn, leaves]
  | @right request program resume' leaves rests ih =>
    obtain ⟨result, exchanges, ends⟩ :=
      ih (other.answer request state').1 (indistinct.right leaves start)
    refine ⟨result, ?_, ends⟩
    rw [exchanges]
    simp [Program.execute, othersIn, leaves]

end Abreast

end Program

theorem filterMap_othersIn {β : Type} {view : Exchange → Option β}
    (unseen : ∀ exchange, exchange.request.leaves = true → view exchange = none)
    (exchanges : List Exchange) :
    (othersIn exchanges).filterMap view = exchanges.filterMap view := by
  rw [othersIn, List.filterMap_filter]
  refine List.filterMap_congr fun exchange _ => ?_
  cases leaves : exchange.request.leaves with
  | true => simp [unseen _ leaves]
  | false => simp

/-- The commands that were run with what came of them, the files that were asked for and what was
shown are among the exchanges in which nothing was left behind. -/
theorem views_eq_of_othersIn {σ τ α β : Type} {one : Execution σ α} {other : Execution τ β}
    (same : othersIn one.exchanges = othersIn other.exchanges) :
    one.runs = other.runs ∧ one.accesses = other.accesses ∧ one.shown = other.shown := by
  have view {γ : Type} {view : Exchange → Option γ}
      (unseen : ∀ exchange, exchange.request.leaves = true → view exchange = none) :
      one.exchanges.filterMap view = other.exchanges.filterMap view := by
    rw [← filterMap_othersIn unseen, same, filterMap_othersIn unseen]
  have asked {γ : Type} {view' : Request → Option γ}
      (unseen : ∀ request, request.leaves = true → view' request = none) :
      one.requests.filterMap view' = other.requests.filterMap view' := by
    rw [Execution.requests, Execution.requests, List.filterMap_map, List.filterMap_map]
    exact view fun exchange leaves => unseen exchange.request leaves
  refine ⟨view ?_, asked ?_, congrArg String.join (asked ?_)⟩
  · rintro ⟨request, answer⟩ leaves
    match request with
    | .note _ | .save .. => rfl
  all_goals
    intro request leaves
    match request with
    | .note (.log ..) | .save .. => rfl

/-! ## Scripts -/

/-- Commands that are answered in order are answered from a script: the answers there are, and then
ones without a word. -/
theorem exists_scripted_execute {α : Type} (tree : SourceTree) (program : Program α)
    (answers : List (Except String Output)) :
    ∃ silent, Scripted (answers ++ List.replicate silent (.ok ⟨"", 0⟩))
      (program.execute (answering tree) answers).runs := by
  induction program generalizing answers with
  | done result => exact ⟨0, .nil _⟩
  | ask request resume ih =>
    cases request with
    | capture command input =>
      cases answers with
      | nil =>
        obtain ⟨silent, scripted⟩ := ih (.ok ⟨"", 0⟩) []
        exact ⟨silent + 1, .captured scripted⟩
      | cons answer rest =>
        obtain ⟨silent, scripted⟩ := ih answer rest
        exact ⟨silent, .captured scripted⟩
    | run command =>
      cases answers with
      | nil =>
        obtain ⟨silent, scripted⟩ := ih (.ok 0) []
        exact ⟨silent + 1, .inherited scripted⟩
      | cons answer rest =>
        obtain ⟨silent, scripted⟩ := ih (answer.map (·.status)) rest
        exact ⟨silent, .inherited scripted⟩
    | _ => exact ih _ answers

/-- Surroundings that differ in their answers to commands only are the same. -/
theorem sameSurroundings_execute {α : Type} (tree : SourceTree) (program program' : Program α)
    (answers answers' : List (Except String Output)) :
    SameSurroundings (program.execute (answering tree) answers).exchanges
      (program'.execute (answering tree) answers').exchanges := by
  intro request uncalled answer answer' here there
  obtain ⟨before, given⟩ := answered_of_mem_execute here
  obtain ⟨before', given'⟩ := answered_of_mem_execute there
  refine Eq.trans given (Eq.trans ?_ given'.symm)
  cases request with
  | capture command input => cases uncalled
  | run command => cases uncalled
  | _ => rfl

end CheckedBuild
