import CheckedBuild.Machine.Kernel

/-!
# Courses of processes

A process runs until it has to wait or starts another process; then it tells how it goes on from
any kernel that it finds later. So the steps of a process can be written as if it were alone, and
still others run in between. A step works on a state that includes the kernel, and yields a value
or stops for a reason. Main statements: the end of a step is what comes next (`bind_pure`,
`pure_bind`), and steps may be grouped in any way (`bind_assoc`).
-/

namespace CheckedBuild.Machine

/-- What a process waits for. -/
structure Wait where
  isOver : Kernel → Bool
  /-- The time at which the waiting is over in any case. -/
  deadline : Option Nat := none

namespace Wait

/-- Lets others run, if they can. -/
def turn : Wait := { isOver := fun _ => true }

/-- Waits for a moment. -/
def upTo (time : Nat) : Wait := { isOver := fun _ => false, deadline := some time }

/-- Whether the waiting is over. -/
def isDone (wait : Wait) (kernel : Kernel) : Bool :=
  wait.isOver kernel || wait.deadline.any (· ≤ kernel.files.now)

end Wait

/-- What a process does from some kernel on, as others see it. -/
inductive Course where
  | ended (kernel : Kernel) (ending : Ending)
  | waiting (kernel : Kernel) (wait : Wait) (resume : Kernel → Course)
  /-- Another process starts, whose number is in the table. -/
  | forked (kernel : Kernel) (process : Nat) (child resume : Kernel → Course)

/-- What a step of a process comes to. -/
inductive Outcome (ε σ α : Type) where
  | done (value : α) (state : σ)
  | stopped (reason : ε) (state : σ)
  | waiting (kernel : Kernel) (wait : Wait) (resume : Kernel → Outcome ε σ α)
  | forked (kernel : Kernel) (process : Nat) (child : Kernel → Course)
      (resume : Kernel → Outcome ε σ α)

namespace Outcome

variable {ε σ α β : Type}

/-- The outcome with more to do after it, whatever it is. -/
def followedBy (next : α → σ → Outcome ε σ β) (instead : ε → σ → Outcome ε σ β) :
    Outcome ε σ α → Outcome ε σ β
  | .done value state => next value state
  | .stopped reason state => instead reason state
  | .waiting kernel wait resume =>
    .waiting kernel wait fun kernel => followedBy next instead (resume kernel)
  | .forked kernel process child resume =>
    .forked kernel process child fun kernel => followedBy next instead (resume kernel)

end Outcome

/-- A step of a process on a state, which may stop for a reason. -/
def Strand (ε σ α : Type) : Type := σ → Outcome ε σ α

/-- A state that the kernel is a part of. -/
class OfKernel (σ : Type) where
  kernel : σ → Kernel
  withKernel : σ → Kernel → σ

instance : OfKernel Kernel := ⟨id, fun _ kernel => kernel⟩

namespace Strand

variable {ε σ α β : Type}

/-- A value without any step. -/
@[inline] protected def pure (value : α) : Strand ε σ α := fun state => .done value state

/-- One step after the other. -/
@[inline] protected def bind (step : Strand ε σ α) (next : α → Strand ε σ β) : Strand ε σ β :=
  fun state =>
    match step state with
    | .done value state => next value state
    | .stopped reason state => .stopped reason state
    | outcome => outcome.followedBy next .stopped

instance : Monad (Strand ε σ) where
  pure := Strand.pure
  bind := Strand.bind

instance : MonadStateOf σ (Strand ε σ) where
  get := fun state => .done state state
  set state := fun _ => .done ⟨⟩ state
  modifyGet f := fun state =>
    let (value, state) := f state
    .done value state

/-- Stops for a reason. -/
@[inline] protected def throw (reason : ε) : Strand ε σ α := fun state => .stopped reason state

/-- A step and what is done instead if it stops. -/
@[inline] protected def tryCatch (step : Strand ε σ α) (handle : ε → Strand ε σ α) :
    Strand ε σ α :=
  fun state =>
    match step state with
    | .done value state => .done value state
    | .stopped reason state => handle reason state
    | outcome => outcome.followedBy .done handle

instance : MonadExceptOf ε (Strand ε σ) where
  throw := Strand.throw
  tryCatch := Strand.tryCatch

theorem bind_eq (step : Strand ε σ α) (next : α → Strand ε σ β) (state : σ) :
    (step.bind next) state = (step state).followedBy next .stopped := by
  unfold Strand.bind
  cases step state <;> simp [Outcome.followedBy]

theorem pure_bind (value : α) (next : α → Strand ε σ β) :
    (Strand.pure value).bind next = next value := rfl

theorem followedBy_done (outcome : Outcome ε σ α) :
    outcome.followedBy .done .stopped = outcome := by
  induction outcome with
  | done => rfl
  | stopped => rfl
  | waiting kernel wait resume ih => simp [Outcome.followedBy, ih]
  | forked kernel process child resume ih => simp [Outcome.followedBy, ih]

theorem bind_pure (step : Strand ε σ α) : step.bind Strand.pure = step := by
  funext state
  rw [bind_eq]
  exact followedBy_done _

theorem followedBy_followedBy {γ : Type} (outcome : Outcome ε σ α)
    (first : α → Strand ε σ β) (second : β → Strand ε σ γ) :
    (outcome.followedBy first .stopped).followedBy second .stopped
      = outcome.followedBy (fun value => (first value).bind second) .stopped := by
  induction outcome with
  | done value state => simp [Outcome.followedBy, bind_eq]
  | stopped => rfl
  | waiting kernel wait resume ih => simp [Outcome.followedBy, ih]
  | forked kernel process child resume ih => simp [Outcome.followedBy, ih]

theorem bind_assoc {γ : Type} (step : Strand ε σ α) (first : α → Strand ε σ β)
    (second : β → Strand ε σ γ) :
    (step.bind first).bind second = step.bind fun value => (first value).bind second := by
  funext state
  rw [bind_eq, bind_eq, bind_eq]
  exact followedBy_followedBy ..

variable [OfKernel σ]

/-- Waits. -/
def pause (wait : Wait) : Strand ε σ Unit := fun state =>
  .waiting (OfKernel.kernel state) wait fun kernel => .done () (OfKernel.withKernel state kernel)

/-- Starts a process that has an entry in the table. -/
def fork (process : Nat) (child : Kernel → Course) : Strand ε σ Unit := fun state =>
  .forked (OfKernel.kernel state) process child fun kernel =>
    .done () (OfKernel.withKernel state kernel)

end Strand

/-- The steps of a tool, which it may leave by ending. -/
abbrev Step := Strand Ending Kernel

/-- A step of a tool as an outcome of a step on a larger state. -/
def Outcome.enlarged {ε σ α : Type} [OfKernel σ] (reason : Ending → ε) (state : σ) :
    Outcome Ending Kernel α → Outcome ε σ α
  | .done value kernel => .done value (OfKernel.withKernel state kernel)
  | .stopped ending kernel => .stopped (reason ending) (OfKernel.withKernel state kernel)
  | .waiting kernel wait resume =>
    .waiting kernel wait fun kernel => enlarged reason state (resume kernel)
  | .forked kernel process child resume =>
    .forked kernel process child fun kernel => enlarged reason state (resume kernel)

/-- A step of a tool as a step on a larger state. -/
@[inline] def Strand.enlarge {ε σ α : Type} [OfKernel σ] (reason : Ending → ε) (step : Step α) :
    Strand ε σ α := fun state =>
  match step (OfKernel.kernel state) with
  | .done value kernel => .done value (OfKernel.withKernel state kernel)
  | outcome => outcome.enlarged reason state

/-- An outcome of a step on a larger state as one of a step of a tool, which gets to know the state
and why the step may have stopped. -/
def Outcome.reported {ε σ α : Type} [OfKernel σ] :
    Outcome ε σ α → Outcome Ending Kernel (Except ε α × σ)
  | .done value state => .done (.ok value, state) (OfKernel.kernel state)
  | .stopped reason state => .done (.error reason, state) (OfKernel.kernel state)
  | .waiting kernel wait resume => .waiting kernel wait fun kernel => (resume kernel).reported
  | .forked kernel process child resume =>
    .forked kernel process child fun kernel => (resume kernel).reported

/-- Runs a step on a larger state, which is made from the kernel. -/
def Strand.report {ε σ α : Type} [OfKernel σ] (strand : Strand ε σ α) (start : Kernel → σ) :
    Step (Except ε α × σ) := fun kernel => (strand (start kernel)).reported

/-- The course of a process as an outcome of a step that takes its place. -/
def Course.outcome : Course → Outcome Ending Kernel Ending
  | .ended kernel ending => .done ending kernel
  | .waiting kernel wait resume => .waiting kernel wait fun kernel => (resume kernel).outcome
  | .forked kernel process child resume =>
    .forked kernel process child fun kernel => (resume kernel).outcome

/-- What a step on a larger state is the course of, if it tells how the process ends. -/
def Outcome.course {ε σ α : Type} [OfKernel σ] (ended : α → Ending) (stopped : ε → Ending) :
    Outcome ε σ α → Course
  | .done value state => .ended (OfKernel.kernel state) (ended value)
  | .stopped reason state => .ended (OfKernel.kernel state) (stopped reason)
  | .waiting kernel wait resume =>
    .waiting kernel wait fun kernel => (resume kernel).course ended stopped
  | .forked kernel process child resume =>
    .forked kernel process child fun kernel => (resume kernel).course ended stopped

end CheckedBuild.Machine
