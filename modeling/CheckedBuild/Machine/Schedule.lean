import CheckedBuild.Machine.Course

/-!
# Turns of processes

Processes run one at a time. The running one goes on until it waits or ends; then the first of the
others goes on whose waiting is over. If there is none, the time moves to the next deadline.
-/

namespace CheckedBuild.Machine

/-- A process that waits for its turn. -/
structure Task where
  process : Nat
  wait : Wait
  resume : Kernel → Course

namespace Task

/-- Whether a process can go on, if only to be found dead. -/
def isReady (kernel : Kernel) (task : Task) : Bool :=
  match kernel.table.entry? task.process with
  | some entry => !entry.isAlive || (!entry.isStopped && task.wait.isDone kernel)
  | none => true

end Task

/-- How long a process may run while another one could. -/
def turnLength : Nat := 2000000

/-- The first task that can go on, and the others in their order. -/
def takeReady (kernel : Kernel) : List Task → Option (Task × List Task)
  | [] => none
  | task :: rest =>
    if task.isReady kernel then some (task, rest)
    else (takeReady kernel rest).map fun (found, others) => (found, task :: others)

/-- The time at which the first of some tasks is woken up, if one of them has a deadline. -/
def nextAlarm (tasks : List Task) : Option Nat :=
  (tasks.filterMap fun task => task.wait.deadline).min?

/-- The time up to which a process may run while others wait. -/
def turnEndBefore (kernel : Kernel) (others : List Task) : Option Nat :=
  if others.isEmpty then none
  else
    let turn := if others.any (Task.isReady kernel) then some (kernel.files.now + turnLength) else none
    match nextAlarm others, turn with
    | some alarm, some turn => some (min alarm turn)
    | alarm?, turn? => alarm? <|> turn?

/-- Lets processes run until a goal is reached or none of them can go on. The results are the
kernel and the processes that are left. -/
def runTasks (goal : Kernel → Bool) (fuel : Nat) (kernel : Kernel) (tasks : List Task) :
    Kernel × List Task :=
  match fuel with
  | 0 => (kernel, tasks)
  | fuel + 1 =>
    if goal kernel then (kernel, tasks)
    else
      match takeReady kernel tasks with
      | some (task, others) =>
        if !kernel.isAlive task.process then runTasks goal fuel kernel others
        else
          let kernel := kernel.switchTo task.process
          match task.resume { kernel with turnEnd := turnEndBefore kernel others } with
          | .ended kernel ending =>
            runTasks goal fuel (kernel.finish task.process ending) others
          | .waiting kernel wait resume =>
            runTasks goal fuel kernel (others ++ [{ task with wait, resume }])
          | .forked kernel process child resume =>
            runTasks goal fuel kernel
              ({ task with wait := .turn, resume } :: others ++ [⟨process, .turn, child⟩])
      | none =>
        match nextAlarm tasks with
        | some time => runTasks goal fuel (kernel.moveTo time) tasks
        | none => (kernel, tasks)

/-- How many turns there are at most. -/
def turnLimit : Nat := 1000000000000

end CheckedBuild.Machine
