import Storefront.Service.Command

/-! # Several commands at a time

A pool holds commands that are under way together.  At each turn one of them asks its
next question, or an event on its way is handed to its listener, which then is one more
task of the pool, or the switches are set.  Which turn comes when is up to a schedule.

A task that asks for a lock queues for it, and is granted it on a later turn once nobody
stands before it.  Tasks queue for the lock of each key in the order in which they came.
-/
namespace Storefront

/-- A command or a delivery that is under way. -/
abbrev TaskScript := Script (Except Error Outcome)

/-- Tasks that are under way together. -/
structure Pool where
  backend : Backend
  /-- Who has asked for which lock, the oldest request first. -/
  queue : List (Nat × LockKey)
  /-- The tasks, known by their places. -/
  tasks : List TaskScript

namespace Pool

/-- The task that holds the lock of a key: the first that has queued for it. -/
def holder? (p : Pool) (key : LockKey) : Option Nat :=
  (p.queue.find? fun r => r.2 == key).map Prod.fst

/-- The pool with another rest of a task. -/
def setTask (p : Pool) (task : Nat) (rest : TaskScript) : Pool :=
  { p with tasks := p.tasks.set task rest }

/-- Lets a task ask a question. -/
def askNext (p : Pool) (task : Nat) (q : Ask) (next : q.Answer → TaskScript) : Pool :=
  let (r, backend) := p.backend.answer q
  { p with backend }.setTask task (next r)

/-- Lets a task take its next step, if it has one and does not have to wait. -/
def stepTask (p : Pool) (task : Nat) : Pool :=
  match p.tasks[task]? with
  | some (.ask (.lock key) next) =>
    if p.holder? key = some task then p.askNext task (.lock key) next
    else if p.queue.contains (task, key) then p
    else { p with queue := p.queue ++ [(task, key)] }
  | some (.ask (.unlock key) next) =>
    { p with queue := p.queue.erase (task, key) }.askNext task (.unlock key) next
  | some (.ask q next) => p.askNext task q next
  | _ => p

/-- Hands the oldest event on its way to its listener. -/
def deliverNext (p : Pool) : Pool :=
  match p.backend.deliveries with
  | [] => p
  | d :: rest =>
    let job : Job Outcome := (fun _ => Outcome.nothing) <$> Loyalty.deliver d
    { p with
      backend := { p.backend with deliveries := rest }
      tasks := p.tasks ++ [job.run] }

/-- Whose turn it is. -/
inductive Turn where
  | task (task : Nat)
  | deliver
  | faults (faults : Faults)
  deriving DecidableEq

/-- The pool after a turn. -/
def step (p : Pool) : Turn → Pool
  | .task task => p.stepTask task
  | .deliver => p.deliverNext
  | .faults faults => { p with backend := { p.backend with faults } }

/-- The pool after the turns of a schedule. -/
def run (p : Pool) (schedule : List Turn) : Pool := schedule.foldl step p

/-- The pool of some commands, of which none has begun. -/
def start (b : Backend) (commands : List (Supply × Command)) : Pool where
  backend := b
  queue := []
  tasks := commands.map fun (supply, command) => (command.job supply).run

/-- What came of the task, if it has come to its end. -/
def result? (p : Pool) (task : Nat) : Option (Except Error Outcome) :=
  match p.tasks[task]? with
  | some (.done r) => some r
  | _ => none

/-- The results of the tasks that have come to their ends. -/
def results (p : Pool) : List (Except Error Outcome) :=
  (List.range p.tasks.length).filterMap p.result?

/-- So many rounds in each of which every one of some tasks has a turn. -/
def rounds (tasks count : Nat) : List Turn :=
  (List.replicate count ((List.range tasks).map Turn.task)).flatten

/-- Enough rounds for some tasks to come to their ends one behind the other. -/
def enoughRounds (tasks : Nat) : List Turn := rounds tasks (8 * tasks + 20)

end Pool

/-- Carries equal commands out together, with supplies from a number on, and delivers
what they published. -/
def Backend.executeTogether (b : Backend) (times firstSupply : Nat) (command : Command) :
    List (Except Error Outcome) × Backend :=
  let commands := (List.range times).map fun i => (Supply.nth (firstSupply + i), command)
  let pool := (Pool.start b commands).run (Pool.enoughRounds times)
  (pool.results, pool.backend.settle)

end Storefront
